import Loom.Proofs.Tree.Occurrence
import Loom.Proofs.Weave.Matching

/-!
# What a walk puts into a tree

The woven references of a walked tree are those it had and those of advices that matched. Simple
statements at the top level, such as imports, stay where they are.
-/

namespace Loom

/-! ## Single tries -/

/-- The woven reference is one of the advice's, as the advice has it. -/
def Advice.Injects (a : Advice) (x : Woven) : Prop := ∃ r ∈ a.references, r.woven = .woven x

/-- One of the tests matched, and its advice brings in the woven reference. -/
def InjectedBy (tests : List Test) (x : Woven) : Prop :=
  ∃ test ∈ tests, test.matched = true ∧ test.advice.Injects x

theorem InjectedBy.mono {tests more : List Test} {x : Woven} (h : InjectedBy tests x)
    (sub : tests ⊆ more) : InjectedBy more x := by
  obtain ⟨test, ht, hit⟩ := h
  exact ⟨test, sub ht, hit⟩

namespace Tried

/-- The woven references of a part that was `old` before some tries are old, or injected by these
tries. -/
def InjectsOnly {α : Type} (subterms : α → List Expr) (old : α) (t : Tried α) : Prop :=
  ∀ x, .woven x ∈ subterms t.node → .woven x ∈ subterms old ∨ InjectedBy t.tests x

theorem InjectsOnly.attempt {α : Type} {subterms : α → List Expr} {old : α} {t : Tried α}
    {a : Advice} {address : Address} {edit : α → α} (ht : t.InjectsOnly subterms old)
    (hedit : ∀ n x, .woven x ∈ subterms (edit n) → .woven x ∈ subterms n ∨ a.Injects x) :
    (t.attempt a address edit).InjectsOnly subterms old := by
  have before (x : Woven) (hx : .woven x ∈ subterms t.node) :
      .woven x ∈ subterms old ∨ InjectedBy (t.tests ++ [⟨a, address⟩]) x :=
    (ht x hx).imp_right fun h => h.mono (List.subset_append_left ..)
  intro x hx
  simp only [Tried.attempt] at hx ⊢
  split at hx
  · next matched =>
    rcases hedit _ x hx with hx | injected
    · exact before x hx
    · exact .inr ⟨⟨a, address⟩, by simp, matched, injected⟩
  · exact before x hx

end Tried

/-! ## Functions -/

theorem Reference.subterms_woven (r : Reference) : r.woven.subterms = [r.woven] := by
  simp [woven, Expr.subterms]

namespace FunctionDef

theorem mem_subterms {x : Expr} (f : Function) : x ∈ (Stmt.functionDef f).subterms ↔
    x ∈ (Stmt.functionDef { f with body := [] }).subterms ∨ x ∈ Stmt.blockSubterms f.body := by
  simp [Stmt.subterms, or_assoc]

theorem injectsOnly_weave (f : Function) (w : Worklist) (address : Address) :
    (f.weave w address).InjectsOnly (fun f => (Stmt.functionDef f).subterms) f := by
  refine weave_keeps (fun x hx => .inl hx) fun t p r _ ht => ht.attempt fun g x hx => ?_
  obtain ⟨name, params, decorators, body⟩ := g
  simp only [addWrapper, Stmt.subterms, Expr.subtermsIn, List.append_assoc, List.mem_append,
    Reference.subterms_woven, List.mem_singleton] at hx ⊢
  rcases hx with hx | hx
  · exact .inr ⟨r, by simp [Advice.references, Advice.slots], hx.symm⟩
  · exact .inl hx

end FunctionDef

/-! ## Classes -/

namespace Keyword

theorem mem_keywordSubterms_set {x : Expr} {arg : String} {value : Expr} {ks : List (Keyword Expr)}
    (h : x ∈ Expr.keywordSubterms (set arg value ks)) :
    x ∈ value.subterms ∨ x ∈ Expr.keywordSubterms ks := by
  induction ks with
  | nil => simpa [set, Expr.keywordSubterms] using h
  | cons k ks ih =>
    simp only [set] at h
    split at h
    · simp only [Expr.keywordSubterms, List.mem_append] at h ⊢
      exact h.imp_right .inr
    · simp only [Expr.keywordSubterms, List.mem_append] at h ⊢
      rcases h with h | h
      · exact .inr (.inl h)
      · exact (ih h).imp_right .inr

end Keyword

namespace Stmt

theorem mem_subterms_of_unbind? {x : Expr} {name : String} {s s' : Stmt}
    (h : unbind? name s = some s') (hx : x ∈ s'.subterms) : x ∈ s.subterms := by
  cases s with
  | assign targets value =>
    simp only [unbind?] at h
    split at h
    · cases h
    · cases h
      simp only [subterms, List.mem_append, Expr.mem_subtermsIn, List.mem_filter] at hx ⊢
      rcases hx with ⟨t, ⟨ht, -⟩, hx⟩ | hx
      · exact .inl ⟨t, ht, hx⟩
      · exact .inr hx
  | _ => cases h; exact hx

theorem mem_blockSubterms_of_unbind {x : Expr} {name : String} {body : List Stmt}
    (h : x ∈ blockSubterms (body.filterMap (unbind? name))) : x ∈ blockSubterms body := by
  obtain ⟨s', hs', hx⟩ := mem_blockSubterms.1 h
  obtain ⟨s, hs, eq⟩ := List.mem_filterMap.1 hs'
  exact mem_blockSubterms.2 ⟨s, hs, mem_subterms_of_unbind? eq hx⟩

end Stmt

namespace ClassDef

theorem mem_subterms {x : Expr} (c : Class) : x ∈ (Stmt.classDef c).subterms ↔
    x ∈ (Stmt.classDef { c with body := [] }).subterms ∨ x ∈ Stmt.blockSubterms c.body := by
  simp [Stmt.subterms, or_assoc]

theorem mem_blockSubterms_of_fillBody {x : Expr} {body : List Stmt}
    (h : x ∈ Stmt.blockSubterms (fillBody body)) : x ∈ Stmt.blockSubterms body := by
  cases body with
  | nil => simp [fillBody, Stmt.subterms] at h
  | cons => exact h

theorem woven_mem_setHook {x : Woven} {c : Class} {hook : Reference}
    (h : .woven x ∈ (Stmt.classDef (c.setHook hook)).subterms) :
    .woven x ∈ (Stmt.classDef c).subterms ∨ hook.woven = .woven x := by
  obtain ⟨name, bases, keywords, decorators, body⟩ := c
  simp only [setHook, unbind, Stmt.subterms, List.mem_append] at h ⊢
  rcases h with (h | h) | h
  · exact .inl (.inl (.inl h))
  · rcases Keyword.mem_keywordSubterms_set h with h | h
    · rw [Reference.subterms_woven, List.mem_singleton] at h
      exact .inr h.symm
    · exact .inl (.inl (.inr h))
  · exact .inl (.inr (Stmt.mem_blockSubterms_of_unbind (mem_blockSubterms_of_fillBody h)))

theorem woven_mem_accessorBinding {x : Woven} {attr : String}
    {getter setter deleter : Option Reference}
    (h : .woven x ∈ (accessorBinding attr getter setter deleter).subterms) :
    ∃ r ∈ [getter, setter, deleter].filterMap id, r.woven = .woven x := by
  simp only [accessorBinding, Stmt.assignName, Stmt.subterms, Expr.subtermsIn, Expr.subterms,
    List.append_nil, List.cons_append, List.nil_append, List.mem_cons, reduceCtorEq, false_or,
    Expr.mem_keywordSubterms] at h
  obtain ⟨k, hk, h⟩ := h
  have slot (arg : String) (accessor : Option Reference)
      (hk : accessorKeyword arg accessor = some k) :
      ∃ r, accessor = some r ∧ r.woven = .woven x := by
    obtain ⟨r, rfl, rfl⟩ := Option.map_eq_some_iff.1 hk
    rw [Reference.subterms_woven, List.mem_singleton] at h
    exact ⟨r, rfl, h.symm⟩
  simp only [List.mem_filterMap, id, exists_eq_right, List.mem_cons, List.not_mem_nil,
    or_false] at hk ⊢
  rcases hk with hk | hk | hk
  · obtain ⟨r, rfl, hr⟩ := slot _ _ hk.symm
    exact ⟨r, .inl rfl, hr⟩
  · obtain ⟨r, rfl, hr⟩ := slot _ _ hk.symm
    exact ⟨r, .inr (.inl rfl), hr⟩
  · obtain ⟨r, rfl, hr⟩ := slot _ _ hk.symm
    exact ⟨r, .inr (.inr rfl), hr⟩

theorem woven_mem_setAccessor {x : Woven} {c : Class} {attr : String}
    {getter setter deleter : Option Reference}
    (h : .woven x ∈ (Stmt.classDef (c.setAccessor attr getter setter deleter)).subterms) :
    .woven x ∈ (Stmt.classDef c).subterms ∨
      ∃ r ∈ [getter, setter, deleter].filterMap id, r.woven = .woven x := by
  obtain ⟨name, bases, keywords, decorators, body⟩ := c
  simp only [setAccessor, unbind, Stmt.subterms, List.mem_append] at h ⊢
  rcases h with h | h
  · exact .inl (.inl h)
  · obtain ⟨s, hs, h⟩ := Stmt.mem_blockSubterms.1 h
    rcases List.mem_append.1 hs with hs | hs
    · exact .inl (.inr (Stmt.mem_blockSubterms_of_unbind (Stmt.mem_blockSubterms.2 ⟨s, hs, h⟩)))
    · cases List.mem_singleton.1 hs
      exact .inr (woven_mem_accessorBinding h)

theorem injectsOnly_weave (c : Class) (w : Worklist) (address : Address) :
    (c.weave w address).InjectsOnly (fun c => (Stmt.classDef c).subterms) c := by
  refine weave_keeps (fun x hx => .inl hx)
    (fun t p r _ ht => ht.attempt fun d x hx => ?_)
    fun t p g s d attr _ ht => ht.attempt fun e x hx => ?_
  · refine (woven_mem_setHook hx).imp_right fun h => ?_
    exact ⟨r, by simp [Advice.references, Advice.slots], h⟩
  · exact woven_mem_setAccessor hx

end ClassDef

/-! ## Statements -/

namespace Stmt

variable {w : Worklist}

theorem woven_mem_weaveAll {address : Address} {body : List Stmt} {x : Woven}
    (ih : ∀ s ∈ body, (s.weave w address).InjectsOnly subterms s)
    (h : .woven x ∈ blockSubterms (body.map fun s => (s.weave w address).node)) :
    .woven x ∈ blockSubterms body ∨
      InjectedBy (body.flatMap fun s => (s.weave w address).tests) x := by
  obtain ⟨s', hs', hx⟩ := mem_blockSubterms.1 h
  obtain ⟨s, hs, rfl⟩ := List.mem_map.1 hs'
  rcases ih s hs x hx with hx | ⟨test, ht, hit⟩
  · exact .inl (mem_blockSubterms.2 ⟨s, hs, hx⟩)
  · exact .inr ⟨test, List.mem_flatMap.2 ⟨s, hs, ht⟩, hit⟩

/-- A walk brings in the references of advices that match, and no others. -/
theorem injectsOnly_weave (w : Worklist) : ∀ (address : Address) (s : Stmt),
    (s.weave w address).InjectsOnly subterms s := by
  refine walk_induct w ?function ?cls ?ifElse ?forLoop ?whileLoop ?simple
  case function =>
    intro address f ih x hx
    rw [weave_functionDef] at hx ⊢
    rcases (FunctionDef.mem_subterms _).1 hx with hx | hx
    · have hx := (FunctionDef.mem_subterms (f.weave w (address.child f.name)).node).2 (.inl hx)
      exact (FunctionDef.injectsOnly_weave f w _ x hx).imp_right
        fun h => h.mono (List.subset_append_left ..)
    · exact (woven_mem_weaveAll ih hx).imp (fun h => (FunctionDef.mem_subterms f).2 (.inr h))
        fun h => h.mono (List.subset_append_right ..)
  case cls =>
    intro address c ih x hx
    rw [weave_classDef] at hx ⊢
    have own (more : List Test)
        (hx : .woven x ∈ (classDef (c.weave w (address.child c.name)).node).subterms) :=
      (ClassDef.injectsOnly_weave c w _ x hx).imp_right
        fun h => h.mono (List.subset_append_left _ more)
    rcases (ClassDef.mem_subterms _).1 hx with hx | hx
    · exact own _ ((ClassDef.mem_subterms _).2 (.inl hx))
    · rcases woven_mem_weaveAll ih hx with hx | h
      · exact own _ ((ClassDef.mem_subterms _).2 (.inr hx))
      · exact .inr (h.mono (List.subset_append_right ..))
  case ifElse =>
    intro address test body orelse ihBody ihElse x hx
    rw [weave_ifElse] at hx ⊢
    simp only [subterms, List.mem_append] at hx ⊢
    rcases hx with (hx | hx) | hx
    · exact .inl (.inl (.inl hx))
    · exact (woven_mem_weaveAll ihBody hx).imp (fun h => .inl (.inr h))
        fun h => h.mono (List.subset_append_left ..)
    · exact (woven_mem_weaveAll ihElse hx).imp .inr fun h => h.mono (List.subset_append_right ..)
  case forLoop =>
    intro address target iter body ih x hx
    rw [weave_forLoop] at hx ⊢
    simp only [subterms, List.mem_append] at hx ⊢
    rcases hx with hx | hx
    · exact .inl (.inl hx)
    · exact (woven_mem_weaveAll ih hx).imp_left .inr
  case whileLoop =>
    intro address test body ih x hx
    rw [weave_whileLoop] at hx ⊢
    simp only [subterms, List.mem_append] at hx ⊢
    rcases hx with hx | hx
    · exact .inl (.inl hx)
    · exact (woven_mem_weaveAll ih hx).imp_left .inr
  case simple =>
    intro address s hs x hx
    rw [weave_of_isSimple hs] at hx
    exact .inl hx

end Stmt

/-! ## Modules -/

namespace Module

variable {m : Module} {w : Worklist} {localName : String}

theorem woven_mem_transform {x : Woven} (h : .woven x ∈ (m.transform w localName).subterms) :
    .woven x ∈ m.subterms ∨ ∃ r ∈ (m.matched w localName).references, r.woven = .woven x := by
  rw [transform, walk, subterms, Stmt.node_weaveBlock] at h
  refine (Stmt.woven_mem_weaveAll (fun s _ => Stmt.injectsOnly_weave w _ s) h).imp_right ?_
  rintro ⟨test, ht, matched, r, hr, eq⟩
  rw [← Stmt.tests_weaveBlock] at ht
  have hit : m.Hit w localName test.advice := ⟨test, ht, matched, rfl⟩
  exact ⟨r, List.mem_flatMap.2 ⟨test.advice, mem_matched.2 hit, hr⟩, eq⟩

/-- A simple statement of the module itself stays. -/
theorem mem_body_transform {s : Stmt} (simple : s.isSimple = true) (h : s ∈ m.body) :
    s ∈ (m.transform w localName).body := by
  rw [transform, walk, Stmt.node_weaveBlock]
  exact List.mem_map.2 ⟨s, h, by rw [Stmt.weave_of_isSimple simple]⟩

end Module

end Loom
