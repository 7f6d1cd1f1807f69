import Loom.Proofs.Weave.Nesting

/-!
# Reading woven trees back

A statement inside `k` blocks stands `3 * k + 2` containers deep in the document of its module, and
a document may nest 127 containers deep. So a woven tree without doubles is read back from its text
exactly if no hook matches a class that stands forty blocks deep (`ModuleFile.load_woven_iff`): such
a class fits, but its metaclass does not.
-/

namespace Loom

open Document (nestingLimit nesting_record_le nesting_array_le)

namespace Module

/-- A class that a hook matches stands exactly `depth` blocks inside the module. -/
def HookedAt (m : Module) (w : Worklist) (localName : String) (depth : Nat) : Prop :=
  ∃ s ∈ m.body, s.HookedAt w depth (.root localName)

theorem nesting_toDocument_le {m : Module} :
    m.toDocument.nesting ≤ nestingLimit ↔ ∀ s ∈ m.body, s.nesting ≤ Stmt.roomFor 41 := by
  have limit : nestingLimit = Stmt.roomFor 41 + 1 + 1 := rfl
  rw [limit, toDocument, nesting_record_le]
  simp [nesting_array_le, Stmt.toDocuments_eq_map, Stmt.nesting]

/-- Reading succeeds with a tree that the document spells and that passes the check. -/
theorem load_eq_ok {text : String} {m : Module} :
    load text = .ok m ↔ ofJson? text = some m ∧ m.check = .ok () := by
  rw [← validate_eq_ok, load]
  cases ofJson? text with
  | none => simp
  | some tree =>
    cases valid : tree.validate with
    | error e =>
      simp only [valid, bind, Except.bind, reduceCtorEq, Option.some.injEq, false_iff, not_and]
      rintro rfl
      simp [valid]
    | ok =>
      simp only [valid, bind, Except.bind, Except.ok.injEq, Option.some.injEq]
      constructor
      · rintro rfl
        exact ⟨rfl, valid⟩
      · exact And.left

/-! ## Edited trees -/

variable {m : Module} {w : Worklist} {localName : String}

theorem nesting_transform_le (h : m.toDocument.nesting ≤ nestingLimit) :
    (m.transform w localName).toDocument.nesting ≤ nestingLimit ↔
      ¬ m.HookedAt w localName 40 := by
  rw [nesting_toDocument_le] at h ⊢
  simp only [transform, walk, Stmt.node_weaveBlock, List.forall_mem_map, HookedAt, not_exists,
    not_and]
  exact forall₂_congr fun s hs => Stmt.nesting_weave_le_iff w _ s 40 (h s hs)

theorem everyConstant_transform (w : Worklist) (localName : String) {P : Constant → Prop}
    (h : m.EveryConstant P) : (m.transform w localName).EveryConstant P := by
  rw [everyConstant_iff] at h ⊢
  simp only [transform, walk, Stmt.node_weaveBlock, List.forall_mem_map]
  exact fun s hs => Stmt.everyConstant_weave w _ s (h s hs)

/-- What holds of the rebound statements and of the header holds of the body with its modules
bound. -/
theorem forall_mem_bindModules {P : Stmt → Prop} (some : w.isEmpty = false)
    (header : ∀ s ∈ Stmt.header w.searchPaths w.modules, P s) :
    (∀ s ∈ (m.bindModules w).body, P s) ↔ ∀ s ∈ m.body, P (s.rebind w) := by
  obtain ⟨before, after, rest, body⟩ := m.body_bindModules some
  have rebound : (∀ s ∈ m.body, P (s.rebind w)) ↔ ∀ s ∈ before ++ after, P s := by
    rw [rest, rebind, Stmt.rebindBlock_eq_map, List.forall_mem_map]
  rw [rebound, body]
  simp only [List.mem_append]
  constructor
  · rintro h s (hs | hs)
    · exact h s (.inl (.inl hs))
    · exact h s (.inr hs)
  · rintro h s ((hs | hs) | hs)
    · exact h s (.inl hs)
    · exact header s hs
    · exact h s (.inr hs)

theorem nesting_bindModules_le (some : w.isEmpty = false) :
    (m.bindModules w).toDocument.nesting ≤ nestingLimit ↔ m.toDocument.nesting ≤ nestingLimit := by
  have header : ∀ s ∈ Stmt.header w.searchPaths w.modules, s.nesting ≤ Stmt.roomFor 41 :=
    fun s hs => Nat.le_trans (Stmt.nesting_header _ _ s hs) (by decide)
  rw [nesting_toDocument_le, nesting_toDocument_le, forall_mem_bindModules some header]
  exact forall₂_congr fun s _ => by rw [Stmt.nesting, Stmt.nesting_rebind, Stmt.nesting]

theorem everyConstant_bindModules {P : Constant → Prop} (some : w.isEmpty = false)
    (texts : ∀ s, P (.str s)) (h : m.EveryConstant P) : (m.bindModules w).EveryConstant P := by
  rw [everyConstant_iff] at h ⊢
  rw [forall_mem_bindModules some (Stmt.everyConstant_header _ _ texts)]
  exact fun s hs => Stmt.everyConstant_rebind (h s hs)

end Module

/-! ## Matches -/

namespace Stmt

theorem HookedAt.exists_leadsTo {w : Worklist} : ∀ {depth : Nat} {address : Address} {s : Stmt},
    s.HookedAt w depth address → ∃ names c, s.LeadsTo names (.classDef c) ∧
      w.hooksAt ((address.descend names).child c.name).text ≠ []
  | 0, address, s, h => by
    cases s with
    | classDef c => exact ⟨[], c, .self, h⟩
    | _ => exact h.elim
  | depth + 1, address, s, h => by
    obtain ⟨t, ht, h⟩ := h
    obtain ⟨names, c, leads, hooks⟩ := h.exists_leadsTo
    cases s with
    | functionDef f => exact ⟨f.name :: names, c, .function ht leads, hooks⟩
    | classDef d => exact ⟨d.name :: names, c, .cls ht leads, hooks⟩
    | ifElse test body orelse =>
      rcases List.mem_append.1 ht with ht | ht
      · exact ⟨names, c, .ifBody ht leads, hooks⟩
      · exact ⟨names, c, .elseBody ht leads, hooks⟩
    | forLoop target iter body => exact ⟨names, c, .forBody ht leads, hooks⟩
    | whileLoop test body => exact ⟨names, c, .whileBody ht leads, hooks⟩
    | _ => cases ht

end Stmt

/-- Where a hook matches a class, something matches. -/
theorem Module.HookedAt.isEmpty_matched {m : Module} {w : Worklist} {localName : String}
    {depth : Nat} (h : m.HookedAt w localName depth) :
    (m.matched w localName).isEmpty = false := by
  obtain ⟨s, hs, h⟩ := h
  obtain ⟨names, c, leads, hooks⟩ := h.exists_leadsTo
  obtain ⟨r, hr⟩ := List.exists_mem_of_ne_nil _ hooks
  obtain ⟨a, ha, eq⟩ := List.mem_filterMap.1 hr
  have hit : m.Hit w localName a := by
    cases a with
    | classHook p hook =>
      simp only [Option.ite_none_right_eq_some] at eq
      rw [Address.child_descend, Address.text_descend_root] at eq
      exact (hit_iff_hasTarget ha).2 ⟨names, c, ⟨s, hs, leads⟩, eq.1⟩
    | functionWrapper | accessorTriple => cases eq
  have found := mem_matched.2 hit
  cases empty : (m.matched w localName).isEmpty with
  | false => rfl
  | true =>
    rw [Worklist.isEmpty, List.isEmpty_iff] at empty
    simp [empty] at found

namespace ModuleFile

variable {m : ModuleFile} {w : Worklist} {registry : Registry} {attempts : Nat} {o : Outcome}

/-- A tree that was read from a text, has no doubles and is woven is read back from the text of what
weaving leaves, unless a hook matches a class forty blocks deep; then it is not. -/
theorem load_woven_iff {text : String} {tree : Module} (read : Module.load text = .ok tree)
    (floats : tree.FloatFree) (htree : m.tree = some tree)
    (h : m.weave w registry attempts = .ok o) :
    ∃ woven, o.module.tree = some woven ∧
      (Module.load woven.toJson = .ok woven ↔ ¬ tree.HookedAt w m.localName 40) := by
  obtain ⟨spelled, checked⟩ := Module.load_eq_ok.1 read
  obtain ⟨d, -, decoded⟩ := Option.bind_eq_some_iff.1 spelled
  obtain ⟨small, ints⟩ := Decode.module_tight _ _ _ decoded
  have allowed : tree.toDocument.nesting ≤ nestingLimit := Nat.le_trans small (Nat.min_le_left ..)
  obtain ⟨tree', same, outcome⟩ := weave_eq_ok_iff.1 h
  cases htree.symm.trans same
  rcases outcome with ⟨none, rfl⟩ | ⟨some, matched, mangled, valid, rfl⟩
  · refine ⟨tree, htree, iff_of_true ?_ fun hooked => ?_⟩
    · exact Module.load_eq_ok.2 ⟨(Module.ofJson?_toJson_iff floats ints).2 allowed, checked⟩
    · simp [hooked.isEmpty_matched] at none
  · have bound := (Worklist.isEmpty_of_mangle_eq_ok mangled).trans some
    have wovenFloats := Module.everyConstant_bindModules bound (by simp)
      (Module.everyConstant_transform w m.localName floats)
    have wovenInts := Module.everyConstant_bindModules bound (fun _ => trivial)
      (Module.everyConstant_transform w m.localName ints)
    refine ⟨_, rfl, ?_⟩
    rw [Module.load_eq_ok, Module.ofJson?_toJson_iff wovenFloats wovenInts,
      and_iff_left (Module.validate_eq_ok.1 valid), Module.nesting_bindModules_le bound,
      Module.nesting_transform_le allowed]

/-- The module `job`, woven with wrappers, is read back. -/
theorem load_woven_job : ∃ o woven, jobFile.weave tracing .empty 1 = .ok o ∧ o.woven = true ∧
    o.module.tree = some woven ∧ Module.load woven.toJson = .ok woven := by
  have checked : job.check = .ok () := by
    have run : Text.isIdentifier "run" = true := by decide
    have log : Text.isIdentifier "log" = true := by decide
    simp [job, run, log]
  have floats : job.FloatFree := by simp [Module.FloatFree, Module.everyConstant_iff, job]
  have ints : job.EveryConstant Constant.InRange := by simp [Module.everyConstant_iff, job]
  have read : Module.load job.toJson = .ok job :=
    Module.load_eq_ok.2 ⟨(Module.ofJson?_toJson_iff floats ints).2 (by decide), checked⟩
  have unhooked : ¬ job.HookedAt tracing "job" 40 := by
    rintro ⟨s, hs, t, ht, hooked⟩
    cases List.mem_singleton.1 hs
    cases List.mem_singleton.1 ht
    cases hooked.isSimple_eq_false
  obtain ⟨o, done, changed, -⟩ := weave_jobFile
  obtain ⟨woven, tree, back⟩ := load_woven_iff read floats rfl done
  exact ⟨o, woven, done, changed, tree, back.2 unhooked⟩

/-! ## A class at the last level

A class inside forty loops, and a hook that matches it. -/

def nested : Nat → Stmt
  | 0 => .classDef ⟨"C", [], [], [], [.pass]⟩
  | n + 1 => .whileLoop (.name "x") [nested n]

def nestedFile : ModuleFile := ⟨⟨"m.json"⟩, none, "m", some ⟨[nested 40]⟩, .empty⟩

def tracedClass : Reference := .ofParts "log" "Traced" ⟨"/lib/log.py"⟩

def hooking : Worklist := .ofAdvices [.classHook ⟨"", .look .start⟩ tracedClass]

def nestedHooked : Nat → Stmt
  | 0 => .classDef ⟨"C", [], [⟨"metaclass", tracedClass.woven⟩], [], [.pass]⟩
  | n + 1 => .whileLoop (.name "x") [nestedHooked n]

theorem hooksAt_hooking : hooking.hooksAt ((Address.root "m").child "C").text = [tracedClass] := by
  decide +kernel

theorem weave_nested : ∀ n, (nested n).weave hooking (.root "m") =
    ⟨nestedHooked n, [⟨.classHook ⟨"", .look .start⟩ tracedClass, (Address.root "m").child "C"⟩]⟩
  | 0 => by
    have simple : Stmt.pass.isSimple = true := rfl
    have trials : ∀ attributes, ClassDef.trials hooking attributes = [] := fun _ => rfl
    have hooks : hooking.classHooks = [.classHook ⟨"", .look .start⟩ tracedClass] := rfl
    have hooked : [tracedClass].foldl ClassDef.setHook ⟨"C", [], [], [], [.pass]⟩ =
        ⟨"C", [], [⟨"metaclass", tracedClass.woven⟩], [], [.pass]⟩ := rfl
    simp only [nested, Stmt.weave_classDef, ClassDef.weave_eq, hooksAt_hooking, trials, hooks,
      hooked, List.filter_nil, List.foldl_nil, List.map_cons, List.map_nil, List.flatMap_cons,
      List.flatMap_nil, Stmt.weave_of_isSimple simple, nestedHooked, List.append_nil]
  | n + 1 => by
    simp only [nested, Stmt.weave_whileLoop, List.map_cons, List.map_nil, List.flatMap_cons,
      List.flatMap_nil, weave_nested n, nestedHooked, List.append_nil]

theorem load_nested : Module.load (Module.toJson ⟨[nested 40]⟩) = .ok ⟨[nested 40]⟩ ∧
    Module.FloatFree ⟨[nested 40]⟩ := by
  have constants : ∀ {P : Constant → Prop} (n : Nat), (nested n).EveryConstant P := by
    intro P n
    induction n with
    | zero => simp [nested]
    | succ n ih => simpa [nested] using ih
  have small : ∀ n, (nested n).nesting ≤ Stmt.roomFor (n + 1) := by
    intro n
    induction n with
    | zero => decide
    | succ n ih =>
      refine (Stmt.nesting_whileLoop_le (n := Stmt.roomFor (n + 1))).2 ⟨?_, by simpa using ih⟩
      exact Nat.le_add_left 1 _
  have checked : ∀ n, (nested n).check = .ok () := by
    have c : Text.isIdentifier "C" = true := by decide
    have x : Text.isIdentifier "x" = true := by decide
    intro n
    induction n with
    | zero => simp [nested, c]
    | succ n ih => simp [nested, x, ih]
  have floats : Module.FloatFree ⟨[nested 40]⟩ := by
    simpa [Module.FloatFree, Module.everyConstant_iff] using constants 40
  refine ⟨Module.load_eq_ok.2 ⟨(Module.ofJson?_toJson_iff floats ?_).2 ?_, ?_⟩, floats⟩
  · simpa [Module.everyConstant_iff] using constants 40
  · simpa [Module.nesting_toDocument_le] using small 40
  · simpa [Module.check_eq_ok] using checked 40

theorem weave_nestedFile : ∃ o, nestedFile.weave hooking .empty 1 = .ok o := by
  have walked : Module.walk ⟨[nested 40]⟩ hooking "m" = ⟨⟨[nestedHooked 40]⟩,
      [⟨.classHook ⟨"", .look .start⟩ tracedClass, (Address.root "m").child "C"⟩]⟩ := by
    simp only [Module.walk, Stmt.node_weaveBlock, Stmt.tests_weaveBlock, List.map_cons,
      List.map_nil, List.flatMap_cons, List.flatMap_nil, weave_nested, List.append_nil]
  have run : (nestedFile.weave hooking .empty 1).toOption.isSome = true := by
    simp only [weave_eq, loaded, nestedFile, bindMatched, Module.matched, Module.matchedInWalk,
      Module.tests, Module.transform, walked, bind, Except.bind]
    decide +kernel
  cases h : nestedFile.weave hooking .empty 1 with
  | error e => simp [h, Except.toOption] at run
  | ok o => exact ⟨o, rfl⟩

/-- The woven tree is not read back from its text. -/
theorem load_woven_nested : ∃ text tree o, Module.load text = .ok tree ∧ tree.FloatFree ∧
    nestedFile.tree = some tree ∧ nestedFile.weave hooking .empty 1 = .ok o ∧
    ∃ woven, o.module.tree = some woven ∧ Module.load woven.toJson ≠ .ok woven := by
  obtain ⟨read, floats⟩ := load_nested
  obtain ⟨o, done⟩ := weave_nestedFile
  obtain ⟨woven, tree, back⟩ := load_woven_iff read floats rfl done
  have hooked : ∀ n, (nested n).HookedAt hooking n (.root "m") := by
    intro n
    induction n with
    | zero =>
      intro none
      simp [hooksAt_hooking] at none
    | succ n ih => exact ⟨nested n, List.mem_singleton_self _, ih⟩
  refine ⟨_, _, o, read, floats, rfl, done, woven, tree, fun ok => ?_⟩
  exact back.1 ok ⟨nested 40, List.mem_singleton_self _, hooked 40⟩

end ModuleFile

end Loom
