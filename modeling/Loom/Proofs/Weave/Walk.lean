import Loom.Weave.Transform

/-!
# The walk, statement by statement

An address is written as the local name, a colon and the names on the way with slashes between them
(`Address.path`). A walk treats the statements of a block one by one, so a block is described by its
statements, and what holds of a declaration follows from what holds of the statements in the body
that its edits leave (`Stmt.walk_induct`). Edits of a class add and take away assignments only.
-/

namespace Loom

/-! ## Addresses -/

namespace Address

/-- The address of the declaration that the names lead to, from the outermost. -/
def descend (a : Address) (names : List String) : Address := names.foldl child a

/-- How the address of a declaration is written. -/
def path (localName : String) (names : List String) : String :=
  localName ++ ":" ++ "/".intercalate names

theorem child_descend (a : Address) (names : List String) (name : String) :
    (a.descend names).child name = a.descend (names ++ [name]) := by
  simp [descend]

theorem text_descend {a : Address} (h : a.depth ≠ 0) (names : List String) :
    (a.descend names).text = "/".intercalate (a.text :: names) := by
  induction names generalizing a with
  | nil => simp [descend]
  | cons name rest ih =>
    have step := ih (a := a.child name) (by simp [child, h])
    simp only [descend, List.foldl_cons] at step ⊢
    rw [step]
    simp [child, h, String.intercalate_cons_append]

theorem text_descend_root (localName : String) (names : List String) :
    ((root localName).descend names).text = path localName names := by
  cases names with
  | nil => simp [descend, root, path]
  | cons name rest =>
    have step := text_descend (a := (root localName).child name) (by simp [child, root]) rest
    simp only [descend, List.foldl_cons] at step ⊢
    rw [step]
    simp [child, root, path, String.intercalate_cons_append]

end Address

/-! ## Blocks -/

namespace Stmt

/-- Whether a statement holds no block. -/
def isSimple : Stmt → Bool
  | .functionDef _ | .classDef _ | .ifElse .. | .forLoop .. | .whileLoop .. => false
  | _ => true

variable {w : Worklist}

theorem weave_of_isSimple {s : Stmt} (h : s.isSimple = true) (address : Address) :
    s.weave w address = ⟨s, []⟩ := by
  cases s with
  | functionDef | classDef | ifElse | forLoop | whileLoop => simp [isSimple] at h
  | _ => rw [weave] <;> simp

theorem node_weaveBlock (address : Address) (body : List Stmt) :
    (weaveBlock w address body).node = body.map fun s => (s.weave w address).node := by
  induction body with
  | nil => rw [weaveBlock]; rfl
  | cons s rest ih => rw [weaveBlock]; simp [ih]

theorem tests_weaveBlock (address : Address) (body : List Stmt) :
    (weaveBlock w address body).tests = body.flatMap fun s => (s.weave w address).tests := by
  induction body with
  | nil => rw [weaveBlock]; rfl
  | cons s rest ih => rw [weaveBlock]; simp [ih]

/-- The body that a walk leaves of a class whose own edits are done. -/
theorem weave_classDef (address : Address) (c : Class) :
    (Stmt.classDef c).weave w address =
      ⟨.classDef { (c.weave w (address.child c.name)).node with
          body := (c.weave w (address.child c.name)).node.body.map
            fun s => (s.weave w (address.child c.name)).node },
        (c.weave w (address.child c.name)).tests ++
          (c.weave w (address.child c.name)).node.body.flatMap
            fun s => (s.weave w (address.child c.name)).tests⟩ := by
  rw [weave]
  simp only [node_weaveBlock, tests_weaveBlock]

theorem weave_functionDef (address : Address) (f : Function) :
    (Stmt.functionDef f).weave w address =
      ⟨.functionDef { (f.weave w (address.child f.name)).node with
          body := f.body.map fun s => (s.weave w (address.child f.name)).node },
        (f.weave w (address.child f.name)).tests ++
          f.body.flatMap fun s => (s.weave w (address.child f.name)).tests⟩ := by
  rw [weave]
  simp only [node_weaveBlock, tests_weaveBlock, FunctionDef.body_weave]

theorem weave_ifElse (address : Address) (test : Expr) (body orelse : List Stmt) :
    (Stmt.ifElse test body orelse).weave w address =
      ⟨.ifElse test (body.map fun s => (s.weave w address).node)
          (orelse.map fun s => (s.weave w address).node),
        (body.flatMap fun s => (s.weave w address).tests) ++
          orelse.flatMap fun s => (s.weave w address).tests⟩ := by
  rw [weave]
  simp only [node_weaveBlock, tests_weaveBlock]

theorem weave_forLoop (address : Address) (target iter : Expr) (body : List Stmt) :
    (Stmt.forLoop target iter body).weave w address =
      ⟨.forLoop target iter (body.map fun s => (s.weave w address).node),
        body.flatMap fun s => (s.weave w address).tests⟩ := by
  rw [weave]
  simp only [node_weaveBlock, tests_weaveBlock]

theorem weave_whileLoop (address : Address) (test : Expr) (body : List Stmt) :
    (Stmt.whileLoop test body).weave w address =
      ⟨.whileLoop test (body.map fun s => (s.weave w address).node),
        body.flatMap fun s => (s.weave w address).tests⟩ := by
  rw [weave]
  simp only [node_weaveBlock, tests_weaveBlock]

/-- Induction along a walk: a class is led back to the body that its edits leave, everything else to
its own blocks. -/
theorem walk_induct (w : Worklist) {P : Address → Stmt → Prop}
    (function : ∀ address f, (∀ s ∈ f.body, P (address.child f.name) s) →
      P address (.functionDef f))
    (cls : ∀ address c,
      (∀ s ∈ (c.weave w (address.child c.name)).node.body, P (address.child c.name) s) →
        P address (.classDef c))
    (ifElse : ∀ address test body orelse, (∀ s ∈ body, P address s) → (∀ s ∈ orelse, P address s) →
      P address (.ifElse test body orelse))
    (forLoop : ∀ address target iter body, (∀ s ∈ body, P address s) →
      P address (.forLoop target iter body))
    (whileLoop : ∀ address test body, (∀ s ∈ body, P address s) → P address (.whileLoop test body))
    (simple : ∀ address s, s.isSimple = true → P address s) :
    ∀ address s, P address s := by
  refine (weave.mutual_induct w P (fun address body => ∀ s ∈ body, P address s)
    ?_ cls ifElse forLoop whileLoop ?_ ?_ ?_).1
  · intro address f func h
    exact function address f fun s hs => h s (by rwa [FunctionDef.body_weave])
  · intro address s hf hc hi hl hw
    refine simple address s ?_
    cases s with
    | functionDef f => exact (hf f rfl).elim
    | classDef c => exact (hc c rfl).elim
    | ifElse test body orelse => exact (hi test body orelse rfl).elim
    | forLoop target iter body => exact (hl target iter body rfl).elim
    | whileLoop test body => exact (hw test body rfl).elim
    | _ => rfl
  · simp
  · intro address s rest hs hrest
    exact List.forall_mem_cons.2 ⟨hs, hrest⟩

end Stmt

/-! ## Edited bodies -/

namespace Stmt

/-- A statement with a block stays in a body from which a name is taken, and none comes in. -/
theorem mem_unbind {s : Stmt} (h : s.isSimple = false) (name : String) (body : List Stmt) :
    s ∈ body.filterMap (unbind? name) ↔ s ∈ body := by
  rw [List.mem_filterMap]
  constructor
  · rintro ⟨x, hx, hs⟩
    cases x with
    | assign targets value =>
      simp only [unbind?] at hs
      split at hs
      · cases hs
      · cases hs; simp [isSimple] at h
    | _ => cases hs; exact hx
  · intro hs
    refine ⟨s, hs, ?_⟩
    cases s <;> simp_all [isSimple, unbind?]

end Stmt

namespace ClassDef

theorem mem_fillBody {s : Stmt} (h : s.isSimple = false) (body : List Stmt) :
    s ∈ fillBody body ↔ s ∈ body := by
  cases body with
  | nil => cases s <;> simp_all [fillBody, Stmt.isSimple]
  | cons => simp [fillBody]

theorem mem_setHook {s : Stmt} (h : s.isSimple = false) (c : Class) (hook : Reference) :
    s ∈ (c.setHook hook).body ↔ s ∈ c.body :=
  (mem_fillBody h _).trans (Stmt.mem_unbind h "__metaclass__" c.body)

theorem mem_setAccessor {s : Stmt} (h : s.isSimple = false) (c : Class) (attr : String)
    (getter setter deleter : Option Reference) :
    s ∈ (c.setAccessor attr getter setter deleter).body ↔ s ∈ c.body := by
  rw [← Stmt.mem_unbind h attr c.body]
  simp only [setAccessor, unbind, List.mem_append, List.mem_singleton, or_iff_left_iff_imp]
  rintro rfl
  simp [accessorBinding, Stmt.assignName, Stmt.isSimple] at h

/-- The tries on a class neither add nor hide a statement with a block. -/
theorem mem_weave {s : Stmt} (h : s.isSimple = false) (c : Class) (w : Worklist)
    (address : Address) : s ∈ (c.weave w address).node.body ↔ s ∈ c.body := by
  let P (d : Class) : Prop := s ∈ d.body ↔ s ∈ c.body
  refine weave_keeps (P := fun t => P t.node) Iff.rfl (fun t p r _ ht => ?_)
    fun t p g s d attr _ ht => ?_
  · exact Tried.node_attempt (P := P) ht fun _ h' => (mem_setHook h _ r).trans h'
  · exact Tried.node_attempt (P := P) ht fun _ h' => (mem_setAccessor h _ attr g s d).trans h'

end ClassDef

end Loom
