import Loom.Aspect.Spec
import Loom.Proofs.Aspect.Worklist
import Loom.Proofs.Except

/-!
# Which specs load

A spec loads as a whole or not at all. An entry is at fault if one of its handles cannot be read or
found or its pattern cannot be compiled (`AdviceSpec.fault?`), and yields an advice otherwise
(`AdviceSpec.Yields`). The first exported name without an aspect fails the load, after it the first
entry at fault of the exported aspects; else the load gives the advices of those entries, each once.
Aspects that are not exported and names that are repeated do not matter.
-/

namespace Loom

variable {locate : Locator}

/-! ## Entries -/

namespace Reference

/-- Why a handle names no declaration: it cannot be read, or its module is not found. -/
def handleFault? (locate : Locator) (handle : String) : Option WeaveError :=
  match Declaration.parse handle with
  | .error e => some e
  | .ok d =>
    match locate d.module with
    | .error e => some e
    | .ok _ => none

/-- `r` is the declaration of a handle, in the file that its module is found in. -/
def NamedBy (locate : Locator) (handle : String) (r : Reference) : Prop :=
  ∃ d file, Declaration.parse handle = .ok d ∧ locate d.module = .ok file ∧
    r = .ofParts d.module d.name file

theorem resolve_cases (locate : Locator) (handle : String) :
    (∃ e, handleFault? locate handle = some e ∧ resolve locate handle = .error e) ∨
      ∃ r, handleFault? locate handle = none ∧ resolve locate handle = .ok r ∧
        NamedBy locate handle r := by
  unfold handleFault? resolve NamedBy
  cases Declaration.parse handle with
  | error e => exact .inl ⟨e, rfl, rfl⟩
  | ok d =>
    cases found : locate d.module with
    | error e => exact .inl ⟨e, by simp [found], by simp [bind, Except.bind, found]⟩
    | ok file =>
      exact .inr ⟨_, by simp [found], by simp [bind, Except.bind, found], d, file, rfl, found, rfl⟩

theorem resolveOptional_cases (locate : Locator) (slot : Option String) :
    (∃ e, slot.bind (handleFault? locate) = some e ∧ resolveOptional locate slot = .error e) ∨
      ∃ r, slot.bind (handleFault? locate) = none ∧ resolveOptional locate slot = .ok r ∧
        Option.Rel (NamedBy locate) slot r := by
  cases slot with
  | none => exact .inr ⟨none, rfl, rfl, .none⟩
  | some handle =>
    obtain ⟨e, fault, failed⟩ | ⟨r, fine, done, named⟩ := resolve_cases locate handle
    · exact .inl ⟨e, fault, by rw [resolveOptional, failed]; rfl⟩
    · exact .inr ⟨some r, fine, by rw [resolveOptional, done]; rfl, .some named⟩

end Reference

namespace AdviceSpec

def kind : AdviceSpec → AdviceKind
  | .functionWrapper .. => .functionWrapper
  | .classHook .. => .classHook
  | .accessorTriple .. => .accessorTriple

def pattern : AdviceSpec → String
  | .functionWrapper pattern _ => pattern
  | .classHook pattern _ => pattern
  | .accessorTriple pattern _ _ _ => pattern

/-- The handles in order, with the absent ones. -/
def slots : AdviceSpec → List (Option String)
  | .functionWrapper _ wrapper => [some wrapper]
  | .classHook _ hook => [some hook]
  | .accessorTriple _ getter setter deleter => [getter, setter, deleter]

def patternFault? (pattern : String) : Option WeaveError :=
  match Pointcut.ofPattern pattern with
  | .error e => some e
  | .ok _ => none

/-- Why an entry yields no advice: the fault of its first handle that has one, else that of its
pattern. -/
def fault? (locate : Locator) (entry : AdviceSpec) : Option WeaveError :=
  (entry.slots.findSome? (·.bind (Reference.handleFault? locate))).or (patternFault? entry.pattern)

/-- `a` is the advice of an entry: of its kind, with its pattern compiled and its handles found. -/
structure Yields (locate : Locator) (entry : AdviceSpec) (a : Advice) : Prop where
  kind : a.kind = entry.kind
  pattern : Pointcut.ofPattern entry.pattern = .ok a.pointcut
  slots : List.Forall₂ (Option.Rel (Reference.NamedBy locate)) entry.slots a.slots

theorem ofPattern_cases (pattern : String) :
    (∃ e, patternFault? pattern = some e ∧ Pointcut.ofPattern pattern = .error e) ∨
      ∃ p, patternFault? pattern = none ∧ Pointcut.ofPattern pattern = .ok p := by
  unfold patternFault?
  cases Pointcut.ofPattern pattern with
  | error e => exact .inl ⟨e, rfl, rfl⟩
  | ok p => exact .inr ⟨p, rfl, rfl⟩

/-- An entry is at fault, and resolving it fails with that fault, or it yields an advice. -/
theorem resolve_cases (locate : Locator) (entry : AdviceSpec) :
    (∃ e, entry.fault? locate = some e ∧ entry.resolve locate = .error e) ∨
      ∃ a, entry.fault? locate = none ∧ entry.resolve locate = .ok a ∧ entry.Yields locate a := by
  cases entry with
  | functionWrapper pattern wrapper =>
    obtain ⟨e, fault, failed⟩ | ⟨r, fine, done, named⟩ := Reference.resolve_cases locate wrapper
    · exact .inl ⟨e, by simp [fault?, slots, fault], by simp [resolve, failed, bind, Except.bind]⟩
    obtain ⟨e, fault, failed⟩ | ⟨p, whole, compiled⟩ := ofPattern_cases pattern
    · exact .inl ⟨e, by simp [fault?, slots, AdviceSpec.pattern, fine, fault],
        by simp [resolve, done, failed, bind, Except.bind]⟩
    · exact .inr ⟨.functionWrapper p r, by simp [fault?, slots, AdviceSpec.pattern, fine, whole],
        by simp [resolve, done, compiled, bind, Except.bind], rfl, compiled,
        .cons (.some named) .nil⟩
  | classHook pattern hook =>
    obtain ⟨e, fault, failed⟩ | ⟨r, fine, done, named⟩ := Reference.resolve_cases locate hook
    · exact .inl ⟨e, by simp [fault?, slots, fault], by simp [resolve, failed, bind, Except.bind]⟩
    obtain ⟨e, fault, failed⟩ | ⟨p, whole, compiled⟩ := ofPattern_cases pattern
    · exact .inl ⟨e, by simp [fault?, slots, AdviceSpec.pattern, fine, fault],
        by simp [resolve, done, failed, bind, Except.bind]⟩
    · exact .inr ⟨.classHook p r, by simp [fault?, slots, AdviceSpec.pattern, fine, whole],
        by simp [resolve, done, compiled, bind, Except.bind], rfl, compiled,
        .cons (.some named) .nil⟩
  | accessorTriple pattern getter setter deleter =>
    -- The slots are resolved in order, so the first fault decides.
    obtain ⟨e, fault, failed⟩ | ⟨g, noG, doneG, namedG⟩ :=
      Reference.resolveOptional_cases locate getter
    · exact .inl ⟨e, by simp [fault?, slots, fault], by simp [resolve, failed, bind, Except.bind]⟩
    obtain ⟨e, fault, failed⟩ | ⟨s, noS, doneS, namedS⟩ :=
      Reference.resolveOptional_cases locate setter
    · exact .inl ⟨e, by simp [fault?, slots, noG, fault],
        by simp [resolve, doneG, failed, bind, Except.bind]⟩
    obtain ⟨e, fault, failed⟩ | ⟨d, noD, doneD, namedD⟩ :=
      Reference.resolveOptional_cases locate deleter
    · exact .inl ⟨e, by simp [fault?, slots, noG, noS, fault],
        by simp [resolve, doneG, doneS, failed, bind, Except.bind]⟩
    obtain ⟨e, fault, failed⟩ | ⟨p, whole, compiled⟩ := ofPattern_cases pattern
    · exact .inl ⟨e, by simp [fault?, slots, AdviceSpec.pattern, noG, noS, noD, fault],
        by simp [resolve, doneG, doneS, doneD, failed, bind, Except.bind]⟩
    · exact .inr ⟨.accessorTriple p g s d,
        by simp [fault?, slots, AdviceSpec.pattern, noG, noS, noD, whole],
        by simp [resolve, doneG, doneS, doneD, compiled, bind, Except.bind], rfl, compiled,
        .cons namedG (.cons namedS (.cons namedD .nil))⟩

theorem resolve_eq_error {entry : AdviceSpec} {e : WeaveError} :
    entry.resolve locate = .error e ↔ entry.fault? locate = some e := by
  obtain ⟨e', fault, failed⟩ | ⟨a, fine, done, -⟩ := resolve_cases locate entry
  · simp [fault, failed]
  · simp [fine, done]

theorem exists_resolve_eq_ok {entry : AdviceSpec} :
    (∃ a, entry.resolve locate = .ok a) ↔ entry.fault? locate = none := by
  obtain ⟨e', fault, failed⟩ | ⟨a, fine, done, -⟩ := resolve_cases locate entry
  · simp [fault, failed]
  · simp [fine, done]

theorem yields_of_resolve {entry : AdviceSpec} {a : Advice} (h : entry.resolve locate = .ok a) :
    entry.Yields locate a := by
  obtain ⟨e', fault, failed⟩ | ⟨a', -, done, yields⟩ := resolve_cases locate entry
  · simp [failed] at h
  · rw [done, Except.ok.injEq] at h
    exact h ▸ yields

end AdviceSpec

/-! ## Specs -/

namespace AspectSpec

variable {s : AspectSpec}

/-- The names whose aspects are woven: those of the list, or all in the order of the document. -/
def exportedNames (s : AspectSpec) : List String := s.exports.getD (s.aspects.map (·.1))

/-- The entries of an aspect; none if there is no such aspect. -/
def entriesOf (s : AspectSpec) (name : String) : List AdviceSpec := (s.find? name).getD []

/-- The entries of the exported aspects, in the order of the names. -/
def exportedEntries (s : AspectSpec) : List AdviceSpec := s.exportedNames.flatMap s.entriesOf

theorem find?_of_mem {name : String} (h : name ∈ s.aspects.map (·.1)) : s.find? name ≠ none := by
  simp only [find?, ne_eq, List.lookup_eq_none_iff]
  intro none
  obtain ⟨aspect, mem, rfl⟩ := List.mem_map.1 h
  simpa using none aspect mem

theorem exported_eq (s : AspectSpec) : s.exported = s.exportedNames.mapM s.checkExported := by
  unfold exported exportedNames
  cases s.exports with
  | some names => rfl
  | none =>
    symm
    refine Except.mapM_eq_ok.2 (List.forall₂_same.2 fun name mem => ?_)
    rw [checkExported, if_pos (Option.isSome_iff_ne_none.2 (find?_of_mem mem))]

theorem checkExported_eq_ok {name name' : String} :
    s.checkExported name = .ok name' ↔ s.find? name ≠ none ∧ name = name' := by
  unfold checkExported
  cases s.find? name <;> simp

theorem checkExported_eq_error {name : String} {e : WeaveError} :
    s.checkExported name = .error e ↔ s.find? name = none ∧ e = .unknownAspect name := by
  unfold checkExported
  cases s.find? name <;> simp [eq_comm]

/-- The advices of some aspects are those of their entries, in order. -/
theorem advices_mapM_resolveAspect (s : AspectSpec) (locate : Locator) (names : List String) :
    (names.mapM (s.resolveAspect locate)).map (·.flatMap (·.advices)) =
      (names.flatMap s.entriesOf).mapM (AdviceSpec.resolve locate) := by
  induction names with
  | nil => rfl
  | cons name names ih =>
    rw [Except.mapM_cons, List.flatMap_cons, Except.mapM_append, ← ih, resolveAspect, entriesOf]
    cases ((s.find? name).getD []).mapM (AdviceSpec.resolve locate) with
    | error e => rfl
    | ok advices => cases names.mapM (s.resolveAspect locate) <;> rfl

/-- Once the names are known, a load resolves the entries of the exported aspects. -/
theorem worklist_eq (s : AspectSpec) (locate : Locator) :
    s.worklist locate = (s.exportedNames.mapM s.checkExported).bind fun _ =>
      (s.exportedEntries.mapM (AdviceSpec.resolve locate)).bind fun advices =>
        .ok (.ofAdvices advices) := by
  rw [worklist, resolveAspects, exported_eq, exportedEntries, ← advices_mapM_resolveAspect]
  cases checked : s.exportedNames.mapM s.checkExported with
  | error e => rfl
  | ok names =>
    -- The checked names are the names themselves.
    obtain rfl : s.exportedNames = names :=
      List.forall₂_eq_eq_eq ▸ (Except.mapM_eq_ok.1 checked).imp fun _ _ h =>
        (checkExported_eq_ok.1 h).2
    simp only [bind, Except.bind]
    cases s.exportedNames.mapM (s.resolveAspect locate) <;> rfl

section

variable (known : ∀ name ∈ s.exportedNames, s.find? name ≠ none)
include known

theorem worklist_of_known (locate : Locator) : s.worklist locate =
    (s.exportedEntries.mapM (AdviceSpec.resolve locate)).bind fun advices =>
      .ok (.ofAdvices advices) := by
  have checked : s.exportedNames.mapM s.checkExported = .ok s.exportedNames :=
    Except.mapM_eq_ok.2 (List.forall₂_same.2 fun name mem =>
      checkExported_eq_ok.2 ⟨known name mem, rfl⟩)
  rw [worklist_eq, checked]
  rfl

theorem worklist_eq_error {e : WeaveError} : s.worklist locate = .error e ↔
    s.exportedEntries.findSome? (AdviceSpec.fault? locate) = some e := by
  have resolved : s.worklist locate = .error e ↔
      s.exportedEntries.mapM (AdviceSpec.resolve locate) = .error e := by
    rw [worklist_of_known known]
    cases s.exportedEntries.mapM (AdviceSpec.resolve locate) <;> simp [Except.bind]
  simp only [resolved, Except.mapM_eq_error, List.findSome?_eq_some_iff,
    AdviceSpec.exists_resolve_eq_ok, AdviceSpec.resolve_eq_error, and_comm]

theorem exists_worklist
    (fine : s.exportedEntries.findSome? (AdviceSpec.fault? locate) = none) :
    ∃ advices w, List.Forall₂ (AdviceSpec.Yields locate) s.exportedEntries advices ∧
      s.worklist locate = .ok w ∧ w.advices = advices.eraseDupsBy Advice.same := by
  have loaded := worklist_of_known known locate
  cases resolved : s.exportedEntries.mapM (AdviceSpec.resolve locate) with
  | error e =>
    rw [resolved] at loaded
    simp [(worklist_eq_error known).1 loaded] at fine
  | ok advices =>
    rw [resolved] at loaded
    exact ⟨advices, _, (Except.mapM_eq_ok.1 resolved).imp fun _ _ => AdviceSpec.yields_of_resolve,
      loaded, Worklist.advices_ofAdvices_eq advices⟩

end

/-- The first unknown name fails the load, whatever the entries are. -/
theorem worklist_of_unknown {name : String}
    (h : s.exportedNames.find? (fun n => (s.find? n).isNone) = some name) :
    s.worklist locate = .error (.unknownAspect name) := by
  obtain ⟨unknown, before, after, split, fine⟩ := List.find?_eq_some_iff_append.1 h
  have checked : s.exportedNames.mapM s.checkExported = .error (.unknownAspect name) :=
    Except.mapM_eq_error.2 ⟨before, name, after, split,
      fun n hn => ⟨n, checkExported_eq_ok.2
        ⟨Option.isSome_iff_ne_none.1 (by simpa using fine n hn), rfl⟩⟩,
      checkExported_eq_error.2 ⟨by simpa using unknown, rfl⟩⟩
  rw [worklist_eq, checked]
  rfl

/-- Only the names and what they name matter. -/
theorem worklist_congr {s' : AspectSpec} (names : s'.exportedNames = s.exportedNames)
    (agree : ∀ name ∈ s.exportedNames, s'.find? name = s.find? name) :
    s'.worklist locate = s.worklist locate := by
  have checked : s.exportedNames.mapM s'.checkExported = s.exportedNames.mapM s.checkExported :=
    Except.mapM_congr fun name mem => by simp only [checkExported, agree name mem]
  have entries : s'.exportedEntries = s.exportedEntries := by
    rw [exportedEntries, exportedEntries, names]
    exact List.flatMap_congr fun name mem => by rw [entriesOf, entriesOf, agree name mem]
  rw [worklist_eq, worklist_eq, names, checked, entries]

/-- Names that are among those before them add nothing. -/
theorem worklist_of_repeated {before again after : List String}
    (h : s.exports = some (before ++ (again ++ after))) (sub : again ⊆ before) :
    { s with exports := some (before ++ after) }.worklist locate = s.worklist locate := by
  have names : s.exportedNames = before ++ (again ++ after) := by rw [exportedNames, h]; rfl
  have fewer : { s with exports := some (before ++ after) }.exportedNames = before ++ after := rfl
  rw [worklist_eq, worklist_eq, exportedEntries, exportedEntries, names, fewer,
    Except.mapM_bind_of_subset (fun _ _ => rfl) sub, List.flatMap_append, List.flatMap_append,
    List.flatMap_append, Except.mapM_bind_of_subset]
  · rfl
  · exact fun rest within => by rw [Worklist.ofAdvices_append_of_subset within]
  · intro entry mem
    obtain ⟨name, there, of⟩ := List.mem_flatMap.1 mem
    exact List.mem_flatMap.2 ⟨name, sub there, of⟩

/-- A spec loads as a whole or not at all, and only the exported aspects count, each once. -/
theorem worklist_all_or_nothing (s : AspectSpec) (locate : Locator) :
    (∀ name, s.exportedNames.find? (fun n => (s.find? n).isNone) = some name →
      s.worklist locate = .error (.unknownAspect name)) ∧
    ((∀ name ∈ s.exportedNames, s.find? name ≠ none) →
      (∀ e, s.worklist locate = .error e ↔
        s.exportedEntries.findSome? (AdviceSpec.fault? locate) = some e) ∧
      (s.exportedEntries.findSome? (AdviceSpec.fault? locate) = none →
        ∃ advices w, List.Forall₂ (AdviceSpec.Yields locate) s.exportedEntries advices ∧
          s.worklist locate = .ok w ∧ w.advices = advices.eraseDupsBy Advice.same)) ∧
    (∀ s' : AspectSpec, s'.exportedNames = s.exportedNames →
      (∀ name ∈ s.exportedNames, s'.find? name = s.find? name) →
      s'.worklist locate = s.worklist locate) ∧
    (∀ before again after : List String, s.exports = some (before ++ (again ++ after)) →
      again ⊆ before →
      { s with exports := some (before ++ after) }.worklist locate = s.worklist locate) :=
  ⟨fun _ => worklist_of_unknown,
    fun known => ⟨fun _ => worklist_eq_error known, exists_worklist known⟩,
    fun _ => worklist_congr, fun _ _ _ => worklist_of_repeated⟩

end AspectSpec

end Loom
