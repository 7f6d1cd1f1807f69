import Loom.Proofs.Aspect.Alias
import Loom.Proofs.Weave.Declaration
import Loom.Proofs.Weave.Rebind
import Loom.Proofs.Weave.Walk
import Loom.Weave.ModuleFile

/-!
# Weaving a module file

When a weaving succeeds and what it leaves. The aliases of the matched advices are fresh against
every name of the edited tree, and what follows the edits, the import header apart, changes no name;
so no alias captures a name of the woven tree.
-/

namespace Loom.ModuleFile

variable {m : ModuleFile} {w : Worklist} {registry : Registry} {attempts : Nat} {o : Outcome}

/-! ## Outcomes -/

theorem run_ofExcept {ε σ α : Type} (x : Except ε α) (s : σ) :
    (ofExcept x : EStateM ε σ α).run s =
      match x with
      | .ok a => .ok a s
      | .error e => .error e s := by
  cases x <;> rfl

/-- All that can fail comes before the first change. -/
theorem run_weaveIn : (weaveIn w attempts).run ⟨m, registry⟩ =
    match m.loaded with
    | .error e => .error e ⟨m, registry⟩
    | .ok tree =>
      if (tree.matched w m.localName).isEmpty then
        .ok false ⟨{ m with matched := tree.matched w m.localName }, registry⟩
      else
        match bindMatched (tree.transform w m.localName) (tree.matched w m.localName) attempts with
        | .error e => .error e ⟨m, registry⟩
        | .ok (tree, matched) => .ok true
          ⟨{ m with tree := some tree, matched }, registry.registerAll matched.searchPaths⟩ := by
  simp only [weaveIn, EStateM.run_bind, EStateM.run_get, run_ofExcept]
  cases m.loaded with
  | error e => rfl
  | ok tree =>
    simp only
    split
    · rfl
    · simp only [EStateM.run_bind, run_ofExcept]
      cases bindMatched (tree.transform w m.localName) (tree.matched w m.localName) attempts <;> rfl

/-- A weaving that fails changes nothing. -/
theorem state_of_run_weaveIn {e : WeaveError} {s : Workpiece}
    (h : (weaveIn w attempts).run ⟨m, registry⟩ = .error e s) :
    s = ⟨m, registry⟩ := by
  rw [run_weaveIn] at h
  split at h
  · cases h
    rfl
  · split at h
    · cases h
    · split at h
      · cases h
        rfl
      · cases h

theorem weave_eq : m.weave w registry attempts = (do
    let tree ← m.loaded
    let matched := tree.matched w m.localName
    if matched.isEmpty then .ok ⟨false, { m with matched }, registry⟩
    else
      let (tree, matched) ← bindMatched (tree.transform w m.localName) matched attempts
      .ok ⟨true, { m with tree := some tree, matched },
        registry.registerAll matched.searchPaths⟩) := by
  rw [weave, run_weaveIn]
  cases m.loaded with
  | error e => rfl
  | ok tree =>
    simp only [bind, Except.bind]
    cases (tree.matched w m.localName).isEmpty with
    | true => rfl
    | false =>
      cases bindMatched (tree.transform w m.localName) (tree.matched w m.localName) attempts <;> rfl

/-- A weaving succeeds exactly if there is a tree and no advice matches it, or aliases are found
for those that do and the tree is valid once they are bound. -/
theorem weave_eq_ok_iff : m.weave w registry attempts = .ok o ↔ ∃ tree, m.tree = some tree ∧
    ((tree.matched w m.localName).isEmpty = true ∧
      o = ⟨false, { m with matched := tree.matched w m.localName }, registry⟩ ∨
    (tree.matched w m.localName).isEmpty = false ∧ ∃ matched,
      ((tree.matched w m.localName).mangle (tree.transform w m.localName).names attempts).1 =
        .ok matched ∧
      ((tree.transform w m.localName).bindModules matched).validate = .ok () ∧
      o = ⟨true, { m with
        tree := some ((tree.transform w m.localName).bindModules matched)
        matched }, registry.registerAll matched.searchPaths⟩) := by
  cases htree : m.tree with
  | none => simp [weave_eq, loaded, htree, bind, Except.bind]
  | some tree =>
    simp only [weave_eq, loaded, htree, bind, Except.bind, bindMatched, Option.some.injEq,
      exists_eq_left']
    cases hempty : (tree.matched w m.localName).isEmpty with
    | true => simp [eq_comm]
    | false =>
      simp only [Bool.false_eq_true, ↓reduceIte, false_and, false_or, true_and]
      cases ((tree.matched w m.localName).mangle
        (tree.transform w m.localName).names attempts).1 with
      | error e => simp
      | ok matched =>
        cases hv : ((tree.transform w m.localName).bindModules matched).validate with
        | error e => simp [hv]
        | ok u => simp [hv, eq_comm]

/-! ## No capture -/

/-- What is left of a woven tree without the header that binds the advice modules is the edited tree
under the new aliases. No alias is bound or used as a name there, and advice modules share an alias
only with themselves. -/
theorem weave_captures_no_name (h : m.weave w registry attempts = .ok o) (woven : o.woven = true) :
    ∃ tree before after, m.tree = some tree ∧
      before ++ after = ((tree.transform w m.localName).rebind o.module.matched).body ∧
      o.module.tree = some ⟨before ++
        Stmt.header o.module.matched.searchPaths o.module.matched.modules ++ after⟩ ∧
      (∀ r ∈ o.module.matched.references,
        r.shortName ∉ Module.bindings ⟨before ++ after⟩ ∧
        .name r.shortName ∉ Module.subterms ⟨before ++ after⟩) ∧
      ∀ r ∈ o.module.matched.references, ∀ s ∈ o.module.matched.references,
        r.shortName = s.shortName ↔ r.moduleKey.same s.moduleKey = true := by
  obtain ⟨tree, htree, ⟨-, rfl⟩ | ⟨hempty, matched, hmangle, -, rfl⟩⟩ := weave_eq_ok_iff.1 h
  · cases woven
  have fresh := Worklist.fresh_of_mangle_eq_ok hmangle
  have nonempty := (Worklist.isEmpty_of_mangle_eq_ok hmangle).trans hempty
  obtain ⟨before, after, rest, body⟩ :=
    (tree.transform w m.localName).body_bindModules nonempty
  -- The names against which the aliases were chosen are those of what is left.
  have names : Module.names ⟨before ++ after⟩ = (tree.transform w m.localName).names := by
    rw [rest]
    exact Module.names_rebind
  have woven := congrArg (some ∘ Module.mk) body
  refine ⟨tree, before, after, htree, rest, woven, fun r hr => ?_, fresh.shared⟩
  have new : r.shortName ∉ Module.names ⟨before ++ after⟩ := names ▸ fresh.notAmong r hr
  exact ⟨fun bound => new (Module.mem_names_of_mem_bindings bound),
    fun used => new (Module.mem_names_of_name_mem_subterms used)⟩

/-! ## An example

In a module `job`, the functions are to be wrapped by `log.traced`, and one of them has a use of its
own for the name `log`. -/

def traced : Reference := .ofParts "log" "traced" ⟨"/lib/log.py"⟩

def tracing : Worklist := .ofAdvices [.functionWrapper ⟨"", .look .start⟩ traced]

def job : Module := ⟨[.functionDef ⟨"run", [], [], [.expr (.name "log")]⟩]⟩

def jobFile : ModuleFile := ⟨⟨"job.py"⟩, none, "job", some job, .empty⟩

/-- A walk edits and tests the one function. -/
theorem walk_job (w : Worklist) : job.walk w "job" =
    ⟨⟨[.functionDef ⟨"run", [], (w.wrappersAt "job:run").reverse.map Reference.woven,
      [.expr (.name "log")]⟩]⟩, w.functionWrappers.map fun a => ⟨a, ⟨"job:run", 1⟩⟩⟩ := by
  have simple : (Stmt.expr (.name "log")).isSimple = true := rfl
  have place : (Address.root "job").child "run" = ⟨"job:run", 1⟩ := by decide
  simp [job, Module.walk, Stmt.node_weaveBlock, Stmt.tests_weaveBlock, Stmt.weave_functionDef,
    Stmt.weave_of_isSimple simple, FunctionDef.weave_eq, place]

theorem weave_jobFile : ∃ o, jobFile.weave tracing .empty 1 = .ok o ∧ o.woven = true ∧
    o.module.matched.references.map (·.shortName) = ["log_"] := by
  have run : ((jobFile.weave tracing .empty 1).toOption.any fun o =>
      o.woven && o.module.matched.references.map (·.shortName) == ["log_"]) = true := by
    simp only [weave_eq, loaded, jobFile, bindMatched, Module.matched, Module.matchedInWalk,
      Module.tests, Module.transform, walk_job, bind, Except.bind]
    decide +kernel
  cases h : jobFile.weave tracing .empty 1 with
  | error e => simp [h, Except.toOption] at run
  | ok o => exact ⟨o, rfl, by simpa [h, Except.toOption] using run⟩

theorem weave_jobFile_captures_no_name : ∃ o before after,
    jobFile.weave tracing .empty 1 = .ok o ∧
    o.module.matched.references.map (·.shortName) = ["log_"] ∧
    o.module.tree = some ⟨before ++
      Stmt.header o.module.matched.searchPaths o.module.matched.modules ++ after⟩ ∧
    .name "log_" ∉ Module.subterms ⟨before ++ after⟩ := by
  obtain ⟨o, done, woven, short⟩ := weave_jobFile
  obtain ⟨_, before, after, -, -, tree, free, -⟩ := weave_captures_no_name done woven
  have used : ∃ r ∈ o.module.matched.references, r.shortName = "log_" := by
    rw [← List.mem_map, short]
    exact List.mem_singleton_self _
  obtain ⟨r, hr, eq⟩ := used
  exact ⟨o, before, after, done, short, tree, eq ▸ (free r hr).2⟩

end Loom.ModuleFile
