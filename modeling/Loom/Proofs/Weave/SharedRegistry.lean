import Mathlib.Logic.Function.Basic
import Loom.Proofs.Except
import Loom.Proofs.Search.Registry
import Loom.Proofs.Weave.Matching
import Loom.Proofs.Weave.ModuleFile

/-!
# Modules that share a registry

A workshop holds modules and the one registry in which their weavings record search paths. Each call
weaves a worklist into one of the modules. A call that fails changes nothing, one without a match
only forgets the advices of the weaving before it, and after any run of calls the registry holds
what it held before, followed by the search roots of what was woven, each once.
-/

namespace Loom

structure Workshop (ι : Type) where
  modules : ι → ModuleFile
  registry : Registry

/-- What is woven into which module, and how many underscores may be tried. -/
structure Call (ι : Type) where
  target : ι
  worklist : Worklist
  attempts : Nat

namespace Worklist

theorem eq_empty_of_isEmpty {w : Worklist} (h : w.isEmpty = true) : w = .empty := by
  obtain ⟨advices, noRepeats⟩ := w
  obtain rfl : advices = [] := by simpa [isEmpty] using h
  rfl

end Worklist

/-- Nothing matches exactly if no advice of the worklist has a target. -/
theorem Module.isEmpty_matched_iff {m : Module} {w : Worklist} {localName : String} :
    (m.matched w localName).isEmpty = true ↔ ∀ a ∈ w.advices, ¬ a.HasTarget m w localName := by
  rw [Worklist.isEmpty, List.isEmpty_iff, ← filter_hasTarget, List.filter_eq_nil_iff]
  simp

namespace ModuleFile

variable {m : ModuleFile} {w : Worklist} {registry : Registry} {attempts : Nat} {s : Workpiece}

/-! ## One weaving -/

/-- A weaving ends without a match exactly if there is a tree in which no advice has a target; then
only the matched advices are dropped. -/
theorem run_weaveIn_eq_ok_false : (weaveIn w attempts).run ⟨m, registry⟩ = .ok false s ↔
    (∃ tree, m.tree = some tree ∧ ∀ a ∈ w.advices, ¬ a.HasTarget tree w m.localName) ∧
      s = ⟨{ m with matched := .empty }, registry⟩ := by
  rw [run_weaveIn, loaded]
  cases m.tree with
  | none => simp
  | some tree =>
    simp only [Option.some.injEq, exists_eq_left', ← Module.isEmpty_matched_iff]
    split
    · next hempty =>
      rw [Worklist.eq_empty_of_isEmpty hempty]
      simp [Worklist.isEmpty, Worklist.empty, eq_comm]
    · next some => split <;> simp [some]

/-- A weaving with a match keeps the search roots of what matched and registers them. -/
theorem searchRoots_of_run_weaveIn (h : (weaveIn w attempts).run ⟨m, registry⟩ = .ok true s) :
    (∃ tree, m.tree = some tree ∧ s.module.matched.references.map (·.searchRoot) =
      (tree.matched w m.localName).references.map (·.searchRoot)) ∧
    s.registry.entries = registry.entries ++
      newPaths registry.entries (s.module.matched.references.map (·.searchRoot)) := by
  have done : m.weave w registry attempts = .ok ⟨true, s.module, s.registry⟩ := by rw [weave, h]
  obtain ⟨tree, htree, ⟨-, unwoven⟩ | ⟨-, matched, hmangle, -, woven⟩⟩ := weave_eq_ok_iff.1 done
  · cases unwoven
  · obtain ⟨-, module, registered⟩ := Outcome.mk.inj woven
    rw [module, registered]
    refine ⟨⟨tree, htree, Worklist.searchRoots_of_mangle_eq_ok hmangle⟩, ?_⟩
    rw [Registry.entries_registerAll, Worklist.searchPaths, newPaths_eraseDupsBy]

end ModuleFile

namespace Workshop

variable {ι : Type} [DecidableEq ι]

/-! ## Runs -/

def run (s : Workshop ι) (c : Call ι) : EStateM.Result WeaveError ModuleFile.Workpiece Bool :=
  (ModuleFile.weaveIn c.worklist c.attempts).run ⟨s.modules c.target, s.registry⟩

def answer (s : Workshop ι) (c : Call ι) : Except WeaveError Bool :=
  match s.run c with
  | .ok woven _ => .ok woven
  | .error e _ => .error e

/-- The workshop after a call, be it with a result or with an error. -/
def after (s : Workshop ι) (c : Call ι) : Workshop ι :=
  match s.run c with
  | .ok _ t | .error _ t => ⟨Function.update s.modules c.target t.module, t.registry⟩

open Classical in
/-- The search roots of the references that a call weaves in, in their order: those of the advices
that have a target in the module as the call finds it. -/
noncomputable def rootsOf (s : Workshop ι) (c : Call ι) : List FilePath :=
  match s.answer c, (s.modules c.target).tree with
  | .ok true, some tree =>
    let targeted := c.worklist.advices.filter fun a =>
      decide (a.HasTarget tree c.worklist (s.modules c.target).localName)
    (targeted.flatMap Advice.references).map (·.searchRoot)
  | _, _ => []

/-- The search roots of all that a run of calls weaves in, in their order. -/
noncomputable def wovenRoots (s : Workshop ι) : List (Call ι) → List FilePath
  | [] => []
  | c :: calls => s.rootsOf c ++ (s.after c).wovenRoots calls

theorem after_of_error {s : Workshop ι} {c : Call ι} {e : WeaveError}
    (failed : s.answer c = .error e) : s.after c = s := by
  rw [answer] at failed
  split at failed
  · cases failed
  · next e t result =>
    obtain rfl := ModuleFile.state_of_run_weaveIn result
    simp [after, result]

omit [DecidableEq ι] in
theorem answer_eq_ok_iff {s : Workshop ι} {c : Call ι} {woven : Bool} :
    s.answer c = .ok woven ↔ ∃ t, s.run c = .ok woven t := by
  rw [answer]
  cases s.run c <;> simp

omit [DecidableEq ι] in
theorem answer_eq_ok_false {s : Workshop ι} {c : Call ι} : s.answer c = .ok false ↔
    ∃ tree, (s.modules c.target).tree = some tree ∧
      ∀ a ∈ c.worklist.advices, ¬ a.HasTarget tree c.worklist (s.modules c.target).localName := by
  simp only [answer_eq_ok_iff, run, ModuleFile.run_weaveIn_eq_ok_false, exists_eq_right]

theorem after_of_unwoven {s : Workshop ι} {c : Call ι} (unwoven : s.answer c = .ok false) :
    s.after c = ⟨Function.update s.modules c.target
      { s.modules c.target with matched := .empty }, s.registry⟩ := by
  rw [after, run, ModuleFile.run_weaveIn_eq_ok_false.2 ⟨answer_eq_ok_false.1 unwoven, rfl⟩]

theorem modules_after_of_ne {s : Workshop ι} {c : Call ι} {i : ι} (other : i ≠ c.target) :
    (s.after c).modules i = s.modules i := by
  rw [after]
  split <;> exact Function.update_of_ne other ..

/-- The matched references that a call leaves have the search roots of those that had a target. -/
theorem searchRoots_after {s : Workshop ι} {c : Call ι} (woven : s.answer c = .ok true) :
    ((s.after c).modules c.target).matched.references.map (·.searchRoot) = s.rootsOf c := by
  obtain ⟨t, result⟩ := answer_eq_ok_iff.1 woven
  obtain ⟨⟨tree, htree, roots⟩, -⟩ := ModuleFile.searchRoots_of_run_weaveIn result
  have left : (s.after c).modules c.target = t.module := by simp [after, result]
  rw [left, roots, rootsOf, woven, htree, Worklist.references, ← Module.filter_hasTarget]

/-- One call adds the new ones of its search roots to the registry. -/
theorem entries_after (s : Workshop ι) (c : Call ι) :
    (s.after c).registry.entries =
      s.registry.entries ++ newPaths s.registry.entries (s.rootsOf c) := by
  cases result : s.answer c with
  | error e => simp [rootsOf, result, after_of_error result]
  | ok woven =>
    cases woven with
    | false => simp [rootsOf, result, after_of_unwoven result]
    | true =>
      obtain ⟨t, woven⟩ := answer_eq_ok_iff.1 result
      rw [← searchRoots_after result]
      simp [after, woven, (ModuleFile.searchRoots_of_run_weaveIn woven).2]

theorem entries_foldl_after (s : Workshop ι) (calls : List (Call ι)) :
    (calls.foldl after s).registry.entries =
      s.registry.entries ++ newPaths s.registry.entries (s.wovenRoots calls) := by
  induction calls generalizing s with
  | nil => simp [wovenRoots]
  | cons c calls ih =>
    rw [List.foldl_cons, ih, entries_after, wovenRoots, newPaths_append, List.append_assoc]

/-- Weaving is all or nothing. A call that fails leaves the whole workshop as it was. A call ends
without a match exactly if its module has a tree in which no advice has a target, and then only that
module's matched advices are dropped. The matched references that a call with a match leaves have the
search roots of those whose advices had a target. No call touches another module. And after any run
of calls the registry holds its entries from before and then, once each, the new search roots of the
references that the calls wove in. -/
theorem after_all_or_nothing (s : Workshop ι) :
    (∀ c, (∀ e, s.answer c = .error e → s.after c = s) ∧
      (s.answer c = .ok false ↔
        ∃ tree, (s.modules c.target).tree = some tree ∧
          ∀ a ∈ c.worklist.advices,
            ¬ a.HasTarget tree c.worklist (s.modules c.target).localName) ∧
      (s.answer c = .ok false → s.after c = ⟨Function.update s.modules c.target
        { s.modules c.target with matched := .empty }, s.registry⟩) ∧
      (s.answer c = .ok true →
        ((s.after c).modules c.target).matched.references.map (·.searchRoot) = s.rootsOf c) ∧
      ∀ i, i ≠ c.target → (s.after c).modules i = s.modules i) ∧
    ∀ calls : List (Call ι), (calls.foldl after s).registry.entries =
      s.registry.entries ++ newPaths s.registry.entries (s.wovenRoots calls) :=
  ⟨fun _ => ⟨fun _ => after_of_error, answer_eq_ok_false, after_of_unwoven, searchRoots_after,
    fun _ => modules_after_of_ne⟩, s.entries_foldl_after⟩

/-! ## An example

The module `job` and one that is not loaded. There are too few underscores for `job` in a first
call, and enough in the last one. -/

def jobShop : Workshop Bool :=
  ⟨fun loaded => { ModuleFile.jobFile with tree := if loaded then some ModuleFile.job else none },
    .empty⟩

def jobCalls : List (Call Bool) :=
  [⟨true, ModuleFile.tracing, 0⟩, ⟨false, ModuleFile.tracing, 1⟩, ⟨true, ModuleFile.tracing, 1⟩]

theorem run_jobShop (attempts : Nat) : jobShop.run ⟨true, ModuleFile.tracing, attempts⟩ =
    (ModuleFile.weaveIn ModuleFile.tracing attempts).run ⟨ModuleFile.jobFile, .empty⟩ := rfl

theorem exists_answer_jobShop_eq_error :
    ∃ e, jobShop.answer ⟨true, ModuleFile.tracing, 0⟩ = .error e := by
  have failed : (jobShop.answer ⟨true, ModuleFile.tracing, 0⟩).toOption = none := by
    simp only [answer, run_jobShop, ModuleFile.run_weaveIn, ModuleFile.loaded, ModuleFile.jobFile,
      ModuleFile.bindMatched, Module.matched, Module.matchedInWalk, Module.tests, Module.transform,
      ModuleFile.walk_job, bind, Except.bind]
    decide +kernel
  cases h : jobShop.answer ⟨true, ModuleFile.tracing, 0⟩ with
  | error e => exact ⟨e, rfl⟩
  | ok woven => simp [h, Except.toOption] at failed

theorem rootsOf_jobShop : jobShop.rootsOf ⟨true, ModuleFile.tracing, 1⟩ = [⟨"/lib"⟩] := by
  have computed : (jobShop.answer ⟨true, ModuleFile.tracing, 1⟩).toOption = some true ∧
      ((jobShop.after ⟨true, ModuleFile.tracing, 1⟩).modules true).matched.references.map
        (·.searchRoot) = [⟨"/lib"⟩] := by
    simp only [answer, after, run_jobShop, ModuleFile.run_weaveIn, ModuleFile.loaded,
      ModuleFile.jobFile, ModuleFile.bindMatched, Module.matched, Module.matchedInWalk,
      Module.tests, Module.transform, ModuleFile.walk_job, bind, Except.bind]
    decide +kernel
  rw [← searchRoots_after (Except.toOption_eq_some.1 computed.1)]
  exact computed.2

/-- Two calls that fail, one of them for want of a tree, and one that registers its search root. -/
theorem after_all_or_nothing_job :
    (∃ e, jobShop.answer ⟨true, ModuleFile.tracing, 0⟩ = .error e) ∧
    jobShop.after ⟨true, ModuleFile.tracing, 0⟩ = jobShop ∧
    (jobCalls.foldl after jobShop).registry.entries = [⟨"/lib"⟩] := by
  obtain ⟨e, failed⟩ := exists_answer_jobShop_eq_error
  have first := ((after_all_or_nothing jobShop).1 _).1 e failed
  have second := ((after_all_or_nothing jobShop).1 ⟨false, ModuleFile.tracing, 1⟩).1 _ rfl
  refine ⟨⟨e, failed⟩, first, ?_⟩
  rw [(after_all_or_nothing jobShop).2 jobCalls]
  simp only [jobCalls, wovenRoots, first, second, rootsOf_jobShop]
  simp only [rootsOf, failed]
  decide +kernel

end Workshop

end Loom
