import Loom.Proofs.Aspect.Worklist
import Loom.Proofs.Weave.Declaration
import Loom.Proofs.Weave.Walk

/-!
# What matches

The tests of a walk are those of the declarations of the tree as it was before the walk: whatever is
edited on the way, no declaration is added, hidden or renamed before the walk comes to it. So an
advice is found to match exactly if it has a target in that tree (`Advice.HasTarget`).
-/

namespace Loom

/-! ## Declarations and their places -/

namespace Stmt

/-- `s.LeadsTo names d`: the statement `d` is `s` or stands inside it, and `names` are those of the
declarations around `d`, from the outermost. Blocks of conditions and loops add no name. -/
inductive LeadsTo : Stmt → List String → Stmt → Prop
  | self {d : Stmt} : LeadsTo d [] d
  | function {f : Function} {s d : Stmt} {names : List String} :
    s ∈ f.body → LeadsTo s names d → LeadsTo (.functionDef f) (f.name :: names) d
  | cls {c : Class} {s d : Stmt} {names : List String} :
    s ∈ c.body → LeadsTo s names d → LeadsTo (.classDef c) (c.name :: names) d
  | ifBody {test : Expr} {body orelse : List Stmt} {s d : Stmt} {names : List String} :
    s ∈ body → LeadsTo s names d → LeadsTo (.ifElse test body orelse) names d
  | elseBody {test : Expr} {body orelse : List Stmt} {s d : Stmt} {names : List String} :
    s ∈ orelse → LeadsTo s names d → LeadsTo (.ifElse test body orelse) names d
  | forBody {target iter : Expr} {body : List Stmt} {s d : Stmt} {names : List String} :
    s ∈ body → LeadsTo s names d → LeadsTo (.forLoop target iter body) names d
  | whileBody {test : Expr} {body : List Stmt} {s d : Stmt} {names : List String} :
    s ∈ body → LeadsTo s names d → LeadsTo (.whileLoop test body) names d

end Stmt

namespace Module

/-- The function `f` stands in the module, inside the declarations `names`. -/
def HasFunction (m : Module) (names : List String) (f : Function) : Prop :=
  ∃ s ∈ m.body, s.LeadsTo names (.functionDef f)

/-- The class `c` stands in the module, inside the declarations `names`. -/
def HasClass (m : Module) (names : List String) (c : Class) : Prop :=
  ∃ s ∈ m.body, s.LeadsTo names (.classDef c)

end Module

namespace Advice

/-- Whether an advice of `w` has a target in a module known as `localName`: a function for a
wrapper, a class for a hook, and for accessors an attribute that the instance methods of a class
assign once the matching hooks are installed. -/
def HasTarget (m : Module) (w : Worklist) (localName : String) : Advice → Prop
  | .functionWrapper p _ =>
    ∃ names f, m.HasFunction names f ∧ p.isMatch (Address.path localName (names ++ [f.name])) = true
  | .classHook p _ =>
    ∃ names c, m.HasClass names c ∧ p.isMatch (Address.path localName (names ++ [c.name])) = true
  | .accessorTriple p _ _ _ =>
    ∃ names c attr, m.HasClass names c ∧
      attr ∈ ((w.hooksAt (Address.path localName (names ++ [c.name]))).foldl
        ClassDef.setHook c).instanceAttributes ∧
      p.isMatch (Address.path localName (names ++ [c.name, attr])) = true

end Advice

/-! ## The tests of a walk -/

namespace Stmt

/-- The tests that are made on a declaration itself, as it stands inside `address`. -/
def ownTests (w : Worklist) (address : Address) : Stmt → List Test
  | .functionDef f => w.functionWrappers.map fun a => ⟨a, address.child f.name⟩
  | .classDef c =>
    let address := address.child c.name
    (w.classHooks.map fun a => ⟨a, address⟩) ++
      (ClassDef.trials w ((w.hooksAt address.text).foldl ClassDef.setHook c).instanceAttributes).map
        fun t => ⟨t.1, address.child t.2⟩
  | _ => []

/-- The declarations that are tested are statements with a block, and so is what leads to them. -/
theorem LeadsTo.isSimple_eq_false {w : Worklist} {address : Address} {s d : Stmt}
    {names : List String} {t : Test} (h : s.LeadsTo names d) (ht : t ∈ d.ownTests w address) :
    s.isSimple = false := by
  cases h with
  | self => cases s <;> first | rfl | cases ht
  | _ => rfl

theorem mem_tests_weave (w : Worklist) :
    ∀ (address : Address) (s : Stmt) (t : Test), t ∈ (s.weave w address).tests ↔
      ∃ names d, s.LeadsTo names d ∧ t ∈ d.ownTests w (address.descend names) := by
  refine walk_induct w ?function ?cls ?ifElse ?forLoop ?whileLoop ?simple
  case function =>
    intro address f ih t
    simp only [weave_functionDef, FunctionDef.weave_eq, List.mem_append, List.mem_flatMap]
    constructor
    · rintro (h | ⟨s, hs, h⟩)
      · exact ⟨[], _, .self, h⟩
      · obtain ⟨names, d, hd, ht⟩ := (ih s hs t).1 h
        exact ⟨f.name :: names, d, .function hs hd, ht⟩
    · rintro ⟨names, d, hd, ht⟩
      cases hd with
      | self => exact .inl ht
      | function hs hd => exact .inr ⟨_, hs, (ih _ hs t).2 ⟨_, _, hd, ht⟩⟩
  case cls =>
    intro address c ih t
    have own : (c.weave w (address.child c.name)).tests = (Stmt.classDef c).ownTests w address := by
      rw [ClassDef.weave_eq]; rfl
    simp only [weave_classDef, own, List.mem_append, List.mem_flatMap]
    constructor
    · rintro (h | ⟨s, hs, h⟩)
      · exact ⟨[], _, .self, h⟩
      · obtain ⟨names, d, hd, ht⟩ := (ih s hs t).1 h
        have hs := (ClassDef.mem_weave (hd.isSimple_eq_false ht) c w _).1 hs
        exact ⟨c.name :: names, d, .cls hs hd, ht⟩
    · rintro ⟨names, d, hd, ht⟩
      cases hd with
      | self => exact .inl ht
      | cls hs hd =>
        have hs := (ClassDef.mem_weave (hd.isSimple_eq_false ht) c w (address.child c.name)).2 hs
        exact .inr ⟨_, hs, (ih _ hs t).2 ⟨_, _, hd, ht⟩⟩
  case ifElse =>
    intro address test body orelse ihBody ihElse t
    simp only [weave_ifElse, List.mem_append, List.mem_flatMap]
    constructor
    · rintro (⟨s, hs, h⟩ | ⟨s, hs, h⟩)
      · obtain ⟨names, d, hd, ht⟩ := (ihBody s hs t).1 h
        exact ⟨names, d, .ifBody hs hd, ht⟩
      · obtain ⟨names, d, hd, ht⟩ := (ihElse s hs t).1 h
        exact ⟨names, d, .elseBody hs hd, ht⟩
    · rintro ⟨names, d, hd, ht⟩
      cases hd with
      | self => cases ht
      | ifBody hs hd => exact .inl ⟨_, hs, (ihBody _ hs t).2 ⟨_, _, hd, ht⟩⟩
      | elseBody hs hd => exact .inr ⟨_, hs, (ihElse _ hs t).2 ⟨_, _, hd, ht⟩⟩
  case forLoop =>
    intro address target iter body ih t
    simp only [weave_forLoop, List.mem_flatMap]
    constructor
    · rintro ⟨s, hs, h⟩
      obtain ⟨names, d, hd, ht⟩ := (ih s hs t).1 h
      exact ⟨names, d, .forBody hs hd, ht⟩
    · rintro ⟨names, d, hd, ht⟩
      cases hd with
      | self => cases ht
      | forBody hs hd => exact ⟨_, hs, (ih _ hs t).2 ⟨_, _, hd, ht⟩⟩
  case whileLoop =>
    intro address test body ih t
    simp only [weave_whileLoop, List.mem_flatMap]
    constructor
    · rintro ⟨s, hs, h⟩
      obtain ⟨names, d, hd, ht⟩ := (ih s hs t).1 h
      exact ⟨names, d, .whileBody hs hd, ht⟩
    · rintro ⟨names, d, hd, ht⟩
      cases hd with
      | self => cases ht
      | whileBody hs hd => exact ⟨_, hs, (ih _ hs t).2 ⟨_, _, hd, ht⟩⟩
  case simple =>
    intro address s hs t
    simp only [weave_of_isSimple hs, List.not_mem_nil, false_iff]
    rintro ⟨names, d, hd, ht⟩
    simp [hd.isSimple_eq_false ht] at hs

theorem advice_mem_of_mem_ownTests {w : Worklist} {address : Address} {d : Stmt} {t : Test}
    (h : t ∈ d.ownTests w address) : t.advice ∈ w.advices := by
  cases d with
  | functionDef f =>
    obtain ⟨a, ha, rfl⟩ := List.mem_map.1 h
    exact (List.mem_filter.1 ha).1
  | classDef c =>
    rcases List.mem_append.1 h with h | h
    · obtain ⟨a, ha, rfl⟩ := List.mem_map.1 h
      exact (List.mem_filter.1 ha).1
    · obtain ⟨⟨a, attr⟩, ha, rfl⟩ := List.mem_map.1 h
      exact (List.mem_filter.1 (ClassDef.mem_trials.1 ha).1).1
  | _ => cases h

end Stmt

/-! ## The advices that match -/

namespace Module

theorem mem_tests {m : Module} {w : Worklist} {localName : String} {t : Test} :
    t ∈ m.tests w localName ↔ ∃ names d, (∃ s ∈ m.body, s.LeadsTo names d) ∧
      t ∈ d.ownTests w ((Address.root localName).descend names) := by
  simp only [tests, walk, Stmt.tests_weaveBlock, List.mem_flatMap, Stmt.mem_tests_weave]
  constructor
  · rintro ⟨s, hs, names, d, hd, ht⟩
    exact ⟨names, d, ⟨s, hs, hd⟩, ht⟩
  · rintro ⟨names, d, ⟨s, hs, hd⟩, ht⟩
    exact ⟨s, hs, names, d, hd, ht⟩

theorem advice_mem_of_mem_tests {m : Module} {w : Worklist} {localName : String} {t : Test}
    (h : t ∈ m.tests w localName) : t.advice ∈ w.advices := by
  obtain ⟨_, _, _, ht⟩ := mem_tests.1 h
  exact Stmt.advice_mem_of_mem_ownTests ht

/-- An advice was found to match somewhere. -/
def Hit (m : Module) (w : Worklist) (localName : String) (a : Advice) : Prop :=
  ∃ t ∈ m.tests w localName, t.matched = true ∧ t.advice = a

theorem Hit.mem {m : Module} {w : Worklist} {localName : String} {a : Advice}
    (h : m.Hit w localName a) : a ∈ w.advices := by
  obtain ⟨t, ht, -, rfl⟩ := h
  exact advice_mem_of_mem_tests ht

theorem mem_hits {m : Module} {w : Worklist} {localName : String} {a : Advice} :
    a ∈ ((m.tests w localName).filter (·.matched)).map (·.advice) ↔ m.Hit w localName a := by
  simp [Hit, and_assoc]

theorem mem_matchedInWalk {m : Module} {w : Worklist} {localName : String} {a : Advice} :
    a ∈ (m.matchedInWalk w localName).advices ↔ m.Hit w localName a := by
  refine ⟨fun h => mem_hits.1 (Worklist.mem_of_mem_ofAdvices h), fun h => ?_⟩
  have found : (m.matchedInWalk w localName).contains a = true :=
    Worklist.contains_ofAdvices.2 ⟨a, mem_hits.2 h, rfl⟩
  obtain ⟨b, hb, same⟩ := Worklist.contains_iff.1 found
  have hit := mem_hits.1 (Worklist.mem_of_mem_ofAdvices hb)
  exact Worklist.eq_of_identity_eq hit.mem h.mem same ▸ hb

theorem contains_matchedInWalk {m : Module} {w : Worklist} {localName : String} {a : Advice}
    (ha : a ∈ w.advices) :
    (m.matchedInWalk w localName).contains a = true ↔ m.Hit w localName a := by
  rw [Worklist.contains_iff]
  constructor
  · rintro ⟨b, hb, same⟩
    have hit := mem_matchedInWalk.1 hb
    exact Worklist.eq_of_identity_eq hit.mem ha same ▸ hit
  · intro h
    exact ⟨a, mem_matchedInWalk.2 h, rfl⟩

/-- Nothing is lost when the advices that match are put into worklist order. -/
theorem advices_matched (m : Module) (w : Worklist) (localName : String) :
    (m.matched w localName).advices =
      w.advices.filter (m.matchedInWalk w localName).contains :=
  Worklist.advices_ofAdvices (w.noRepeats.sublist List.filter_sublist)

theorem mem_matched {m : Module} {w : Worklist} {localName : String} {a : Advice} :
    a ∈ (m.matched w localName).advices ↔ m.Hit w localName a := by
  rw [advices_matched, List.mem_filter]
  exact ⟨fun ⟨ha, h⟩ => (contains_matchedInWalk ha).1 h,
    fun h => ⟨h.mem, (contains_matchedInWalk h.mem).2 h⟩⟩

theorem hit_iff {m : Module} {w : Worklist} {localName : String} {a : Advice} :
    m.Hit w localName a ↔
      (a ∈ w.functionWrappers ∧ ∃ names f, m.HasFunction names f ∧
        a.pointcut.isMatch (Address.path localName (names ++ [f.name])) = true) ∨
      (a ∈ w.classHooks ∧ ∃ names c, m.HasClass names c ∧
        a.pointcut.isMatch (Address.path localName (names ++ [c.name])) = true) ∨
      (a ∈ w.accessorTriples ∧ ∃ names c attr, m.HasClass names c ∧
        attr ∈ ((w.hooksAt (Address.path localName (names ++ [c.name]))).foldl
          ClassDef.setHook c).instanceAttributes ∧
        a.pointcut.isMatch (Address.path localName (names ++ [c.name, attr])) = true) := by
  simp only [Hit, mem_tests]
  constructor
  · rintro ⟨t, ⟨names, d, hd, ht⟩, matched, rfl⟩
    simp only [Test.matched, Advice.isMatch] at matched
    cases d with
    | functionDef f =>
      obtain ⟨a, ha, rfl⟩ := List.mem_map.1 ht
      rw [Address.child_descend, Address.text_descend_root] at matched
      exact .inl ⟨ha, names, f, hd, matched⟩
    | classDef c =>
      simp only [Stmt.ownTests, Address.child_descend, Address.text_descend_root] at ht
      rcases List.mem_append.1 ht with ht | ht
      · obtain ⟨a, ha, rfl⟩ := List.mem_map.1 ht
        rw [Address.text_descend_root] at matched
        exact .inr (.inl ⟨ha, names, c, hd, matched⟩)
      · obtain ⟨⟨a, attr⟩, ha, rfl⟩ := List.mem_map.1 ht
        obtain ⟨ha, hattr⟩ := ClassDef.mem_trials.1 ha
        rw [Address.text_descend_root] at matched
        refine .inr (.inr ⟨ha, names, c, attr, hd, hattr, ?_⟩)
        simpa using matched
    | _ => cases ht
  · rintro (⟨ha, names, f, hd, matched⟩ | ⟨ha, names, c, hd, matched⟩ |
      ⟨ha, names, c, attr, hd, hattr, matched⟩)
    · refine ⟨⟨a, _⟩, ⟨names, _, hd, List.mem_map_of_mem ha⟩, ?_, rfl⟩
      rwa [Test.matched, Advice.isMatch, Address.child_descend, Address.text_descend_root]
    · refine ⟨⟨a, _⟩, ⟨names, _, hd, List.mem_append_left _ (List.mem_map_of_mem ha)⟩, ?_, rfl⟩
      rwa [Test.matched, Advice.isMatch, Address.child_descend, Address.text_descend_root]
    · rw [← Address.text_descend_root, ← Address.child_descend] at hattr
      refine ⟨⟨a, _⟩, ⟨names, _, hd, List.mem_append_right _
        (List.mem_map_of_mem (ClassDef.mem_trials.2 ⟨ha, hattr⟩))⟩, ?_, rfl⟩
      simpa [Test.matched, Advice.isMatch, Address.child_descend, Address.text_descend_root]
        using matched

/-- An advice matches somewhere in the walk exactly if it has a target in the module. -/
theorem hit_iff_hasTarget {m : Module} {w : Worklist} {localName : String} {a : Advice}
    (ha : a ∈ w.advices) : m.Hit w localName a ↔ a.HasTarget m w localName := by
  rw [hit_iff]
  cases a <;>
    simp [Worklist.functionWrappers, Worklist.classHooks, Worklist.accessorTriples,
      Worklist.ofKind, ha, Advice.kind, Advice.pointcut, Advice.HasTarget]

open Classical in
/-- The advices that match are those that have a target, in the order of the worklist. -/
theorem filter_hasTarget (m : Module) (w : Worklist) (localName : String) :
    w.advices.filter (fun a => decide (a.HasTarget m w localName)) =
      (m.matched w localName).advices := by
  rw [advices_matched]
  refine List.filter_congr fun a ha => ?_
  rw [Bool.eq_iff_iff, contains_matchedInWalk ha, hit_iff_hasTarget ha, decide_eq_true_iff]

open Classical in
/-- Which advices match is settled by the module as it was: they are those of the worklist, in its
order, that have a target there. The order in which the walk finds them changes no member. -/
theorem advices_matched_eq_filter_hasTarget (m : Module) (w : Worklist) (localName : String) :
    (m.matched w localName).advices =
        w.advices.filter (fun a => decide (a.HasTarget m w localName)) ∧
      ∀ a, a ∈ (m.matchedInWalk w localName).advices ↔ a ∈ (m.matched w localName).advices :=
  ⟨(m.filter_hasTarget w localName).symm, fun _ => mem_matchedInWalk.trans mem_matched.symm⟩

end Module

end Loom
