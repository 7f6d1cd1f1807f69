import Loom.Proofs.Distinct
import Loom.Proofs.Weave.Declaration

/-!
# Instance attributes as places of the class body

A place in a tree is the list of indices that lead to it, and source order is the lexicographic
order of places. `ClassDef.AttributeAt` says where an instance method assigns an attribute through
its first parameter. A scan that goes through a tree from left to right lists what is at its places
in their order (`Listed`), so the instance attributes of a class are the names that are somewhere,
each at its first place.
-/

namespace Loom

/-! ## Names listed by place -/

/-- `names` are the names that `At` puts somewhere, one for each place, in the order of the
places. -/
def Listed (At : String → List Nat → Prop) (names : List String) : Prop :=
  ∃ places : List (List Nat × String), places.map Prod.snd = names ∧
    places.Pairwise (fun x y => x.1 < y.1) ∧ ∀ attr p, (p, attr) ∈ places ↔ At attr p

/-- The places in the elements of `xs`: those of an element, under its index. Indices start at
`k`. -/
def InItems {α : Type} (At : α → String → List Nat → Prop) (k : Nat) (xs : List α) (attr : String)
    (p : List Nat) : Prop :=
  ∃ i x q, xs[i]? = some x ∧ p = (k + i) :: q ∧ At x attr q

theorem not_inItems_nil {α : Type} {At : α → String → List Nat → Prop} {k : Nat} {attr : String}
    {p : List Nat} : ¬ InItems At k [] attr p := by
  rintro ⟨i, x, q, hx, -⟩
  simp at hx

theorem inItems_cons {α : Type} {At : α → String → List Nat → Prop} {k : Nat} {x : α} {xs : List α}
    {attr : String} {p : List Nat} :
    InItems At k (x :: xs) attr p ↔
      (∃ q, p = k :: q ∧ At x attr q) ∨ InItems At (k + 1) xs attr p := by
  constructor
  · rintro ⟨_ | i, y, q, hy, rfl, at_y⟩
    · obtain rfl : x = y := by simpa using hy
      exact .inl ⟨q, rfl, at_y⟩
    · exact .inr ⟨i, y, q, by simpa using hy, by rw [Nat.add_right_comm, Nat.add_assoc], at_y⟩
  · rintro (⟨q, rfl, at_x⟩ | ⟨i, y, q, hy, rfl, at_y⟩)
    · exact ⟨0, x, q, rfl, rfl, at_x⟩
    · exact ⟨i + 1, y, q, by simpa using hy, by rw [Nat.add_right_comm, Nat.add_assoc], at_y⟩

namespace Listed

variable {At At' : String → List Nat → Prop} {names more : List String}

theorem congr (h : Listed At names) (same : ∀ attr p, At attr p ↔ At' attr p) :
    Listed At' names := by
  obtain ⟨places, named, ascending, complete⟩ := h
  exact ⟨places, named, ascending, fun attr p => (complete attr p).trans (same attr p)⟩

theorem nil (h : ∀ attr p, ¬ At attr p) : Listed At [] :=
  ⟨[], rfl, .nil, fun attr p => by simp [h]⟩

/-- The same places further down, in the child at index `i`. -/
theorem under (h : Listed At names) (i : Nat) :
    Listed (fun attr p => ∃ q, p = i :: q ∧ At attr q) names := by
  obtain ⟨places, rfl, ascending, complete⟩ := h
  refine ⟨places.map fun x => (i :: x.1, x.2), by simp, ?_, fun attr p => ?_⟩
  · exact List.pairwise_map.2 (ascending.imp fun less => List.cons_lt_cons_iff.2 (.inr ⟨rfl, less⟩))
  · simp only [List.mem_map, Prod.mk.injEq, Prod.exists]
    constructor
    · rintro ⟨q, _, mem, rfl, rfl⟩
      exact ⟨q, rfl, (complete _ q).1 mem⟩
    · rintro ⟨q, rfl, at_q⟩
      exact ⟨q, attr, (complete attr q).2 at_q, rfl, rfl⟩

theorem append (h : Listed At names) (h' : Listed At' more)
    (before : ∀ attr p attr' p', At attr p → At' attr' p' → p < p') :
    Listed (fun attr p => At attr p ∨ At' attr p) (names ++ more) := by
  obtain ⟨places, rfl, ascending, complete⟩ := h
  obtain ⟨places', rfl, ascending', complete'⟩ := h'
  refine ⟨places ++ places', by simp, ?_, fun attr p => ?_⟩
  · refine List.pairwise_append.2 ⟨ascending, ascending', fun x hx y hy => ?_⟩
    exact before _ _ _ _ ((complete x.2 x.1).1 hx) ((complete' y.2 y.1).1 hy)
  · rw [List.mem_append, complete, complete']

theorem items_nil {α : Type} {At : α → String → List Nat → Prop} {k : Nat} :
    Listed (InItems At k []) [] :=
  nil fun _ _ => not_inItems_nil

theorem items_cons {α : Type} {At : α → String → List Nat → Prop} {k : Nat} {x : α} {xs : List α}
    (first : Listed (At x) names) (rest : Listed (InItems At (k + 1) xs) more) :
    Listed (InItems At k (x :: xs)) (names ++ more) := by
  refine ((first.under k).append rest ?_).congr fun attr p => inItems_cons.symm
  rintro _ _ _ _ ⟨q, rfl, -⟩ ⟨i, y, q', -, rfl, -⟩
  exact List.cons_lt_cons_iff.2 (.inl (by omega))

theorem flatMap {α : Type} {At : α → String → List Nat → Prop} {f : α → List String} {xs : List α}
    (each : ∀ x ∈ xs, Listed (At x) (f x)) (k : Nat) :
    Listed (InItems At k xs) (xs.flatMap f) := by
  induction xs generalizing k with
  | nil => exact items_nil
  | cons x xs ih =>
    rw [List.flatMap_cons]
    exact items_cons (each x List.mem_cons_self)
      (ih (fun y hy => each y (List.mem_cons_of_mem _ hy)) (k + 1))

/-- Two children, the first before the second. -/
theorem children (first : Listed At names) (second : Listed At' more) :
    Listed (fun attr p => (∃ q, p = 0 :: q ∧ At attr q) ∨ ∃ q, p = 1 :: q ∧ At' attr q)
      (names ++ more) := by
  refine (first.under 0).append (second.under 1) ?_
  rintro _ _ _ _ ⟨q, rfl, -⟩ ⟨q', rfl, -⟩
  exact List.cons_lt_cons_iff.2 (.inl Nat.zero_lt_one)

theorem mem_iff (h : Listed At names) {attr : String} : attr ∈ names ↔ ∃ p, At attr p := by
  obtain ⟨places, rfl, -, complete⟩ := h
  simp only [List.mem_map, Prod.exists, exists_eq_right, complete]

end Listed

/-- An element stays at its first place, before every place of those that come after it. -/
theorem pairwise_newOnes (known xs : List String) :
    (newOnes (· == ·) known xs).Pairwise fun a b =>
      ∃ us vs, xs = us ++ a :: vs ∧ b ∉ us ∧ b ≠ a := by
  have same_iff : Identifies id fun x y : String => x == y := fun x y => by simp
  induction xs generalizing known with
  | nil => exact .nil
  | cons x xs ih =>
    -- An element that comes after `x` here is another one, as `x` is known by then.
    have later : ∀ known, known.any (· == x) = true → (newOnes (· == ·) known xs).Pairwise
        fun a b => ∃ us vs, x :: xs = us ++ a :: vs ∧ b ∉ us ∧ b ≠ a := fun known known_x => by
      refine (ih known).imp_of_mem fun {a b} _ hb first => ?_
      obtain ⟨us, vs, eq, free, ne⟩ := first
      have ne_x : b ≠ x := by
        rintro rfl
        rw [(mem_newOnes same_iff hb).2] at known_x
        cases known_x
      exact ⟨x :: us, vs, by rw [eq, List.cons_append], by simp [ne_x, free], ne⟩
    rw [newOnes_cons same_iff]
    split
    · next known_x => exact later known known_x
    · refine .cons (fun b hb => ⟨[], xs, rfl, List.not_mem_nil, ?_⟩) (later _ (by simp))
      rintro rfl
      simpa using (mem_newOnes same_iff hb).2

/-- Each name once, in the order of the first places. -/
theorem Listed.pairwise_distinct {At : String → List Nat → Prop} {names : List String}
    (h : Listed At names) :
    (distinct names).Pairwise fun a b => ∃ p, At a p ∧ ∀ q, At b q → p < q := by
  obtain ⟨places, rfl, ascending, complete⟩ := h
  rw [distinct, List.eraseDups, ← newOnes_of_none_known]
  refine (pairwise_newOnes [] _).imp fun {a b} first => ?_
  obtain ⟨us, vs, eq, free, ne⟩ := first
  obtain ⟨before, others, rfl, rfl, split_here⟩ := List.map_eq_append_iff.1 eq
  obtain ⟨⟨p, _⟩, after, rfl, rfl, -⟩ := List.map_eq_cons_iff.1 split_here
  refine ⟨p, (complete _ p).1 (by simp), fun q at_b => ?_⟩
  obtain mem | mem := List.mem_append.1 ((complete b q).2 at_b)
  · exact absurd (List.mem_map.2 ⟨_, mem, rfl⟩) free
  obtain eq | mem := List.mem_cons.1 mem
  · exact absurd (congrArg Prod.snd eq) ne
  · exact (List.pairwise_cons.1 (List.pairwise_append.1 ascending).2.1).1 _ mem

/-! ## Targets and statements -/

namespace Expr

theorem asName?_eq_some {e : Expr} {id : String} : e.asName? = some id ↔ e = .name id := by
  cases e <;> simp [asName?]

theorem isName_iff {e : Expr} {id : String} : e.isName id = true ↔ e = .name id := by
  rw [isName, beq_iff_eq, asName?_eq_some]

/-- `receiver.attr` is a target, or stands in one at a place inside tuples and lists. -/
inductive TargetAt (receiver : String) : Expr → String → List Nat → Prop where
  | whole {attr : String} : TargetAt receiver (.attribute (.name receiver) attr) attr []
  | tuple {items : List Expr} {i : Nat} {e : Expr} {attr : String} {p : List Nat}
      (item : items[i]? = some e) (place : TargetAt receiver e attr p) :
      TargetAt receiver (.tuple items) attr (i :: p)
  | list {items : List Expr} {i : Nat} {e : Expr} {attr : String} {p : List Nat}
      (item : items[i]? = some e) (place : TargetAt receiver e attr p) :
      TargetAt receiver (.list items) attr (i :: p)

variable {receiver attr : String} {p : List Nat}

theorem targetAt_attribute {value : Expr} {attr' : String} :
    TargetAt receiver (.attribute value attr') attr p ↔
      value = .name receiver ∧ attr = attr' ∧ p = [] := by
  constructor
  · rintro ⟨⟩
    exact ⟨rfl, rfl, rfl⟩
  · rintro ⟨rfl, rfl, rfl⟩
    exact .whole

theorem targetAt_tuple {items : List Expr} :
    TargetAt receiver (.tuple items) attr p ↔ InItems (TargetAt receiver) 0 items attr p := by
  constructor
  · rintro (_ | ⟨item, place⟩)
    exact ⟨_, _, _, item, by rw [Nat.zero_add], place⟩
  · rintro ⟨i, e, q, item, rfl, place⟩
    rw [Nat.zero_add]
    exact .tuple item place

theorem targetAt_list {items : List Expr} :
    TargetAt receiver (.list items) attr p ↔ InItems (TargetAt receiver) 0 items attr p := by
  constructor
  · rintro (_ | _ | ⟨item, place⟩)
    exact ⟨_, _, _, item, by rw [Nat.zero_add], place⟩
  · rintro ⟨i, e, q, item, rfl, place⟩
    rw [Nat.zero_add]
    exact .list item place

mutual
theorem listed_receiverTargets :
    ∀ e : Expr, Listed (TargetAt receiver e) (receiverTargets receiver e)
  | .attribute value attr => by
    rw [receiverTargets]
    split
    · next h =>
      refine ⟨[([], attr)], rfl, List.pairwise_singleton _ _, fun attr' p => ?_⟩
      simp [targetAt_attribute, isName_iff.1 h, and_comm]
    · next h =>
      exact .nil fun attr' p place => h (isName_iff.2 (targetAt_attribute.1 place).1)
  | .tuple items => (listed_receiverTargetsIn items 0).congr fun _ _ => targetAt_tuple.symm
  | .list items => (listed_receiverTargetsIn items 0).congr fun _ _ => targetAt_list.symm
  | .name _ | .call .. | .constant _ | .compare .. | .binOp .. | .woven _ => .nil nofun

theorem listed_receiverTargetsIn : ∀ (es : List Expr) (k : Nat),
    Listed (InItems (TargetAt receiver) k es) (receiverTargetsIn receiver es)
  | [], _ => .items_nil
  | e :: es, k => .items_cons (listed_receiverTargets e) (listed_receiverTargetsIn es (k + 1))
end

end Expr

namespace Stmt

/-- A statement assigns `receiver.attr` at a place that only branches and loops lead to. The bodies
of an `if` are its children 0 and 1, and so are the target and the body of a `for`. -/
inductive AssignedAt (receiver : String) : Stmt → String → List Nat → Prop where
  | assign {targets : List Expr} {value e : Expr} {i : Nat} {attr : String} {p : List Nat}
      (target : targets[i]? = some e) (place : e.TargetAt receiver attr p) :
      AssignedAt receiver (.assign targets value) attr (i :: p)
  | ifBody {test : Expr} {body orelse : List Stmt} {i : Nat} {s : Stmt} {attr : String}
      {p : List Nat} (stmt : body[i]? = some s) (place : AssignedAt receiver s attr p) :
      AssignedAt receiver (.ifElse test body orelse) attr (0 :: i :: p)
  | ifOrelse {test : Expr} {body orelse : List Stmt} {i : Nat} {s : Stmt} {attr : String}
      {p : List Nat} (stmt : orelse[i]? = some s) (place : AssignedAt receiver s attr p) :
      AssignedAt receiver (.ifElse test body orelse) attr (1 :: i :: p)
  | forTarget {target iter : Expr} {body : List Stmt} {attr : String} {p : List Nat}
      (place : target.TargetAt receiver attr p) :
      AssignedAt receiver (.forLoop target iter body) attr (0 :: p)
  | forBody {target iter : Expr} {body : List Stmt} {i : Nat} {s : Stmt} {attr : String}
      {p : List Nat} (stmt : body[i]? = some s) (place : AssignedAt receiver s attr p) :
      AssignedAt receiver (.forLoop target iter body) attr (1 :: i :: p)
  | whileBody {test : Expr} {body : List Stmt} {i : Nat} {s : Stmt} {attr : String}
      {p : List Nat} (stmt : body[i]? = some s) (place : AssignedAt receiver s attr p) :
      AssignedAt receiver (.whileLoop test body) attr (i :: p)

variable {receiver attr : String} {p : List Nat}

theorem assignedAt_assign {targets : List Expr} {value : Expr} :
    AssignedAt receiver (.assign targets value) attr p ↔
      InItems (Expr.TargetAt receiver) 0 targets attr p := by
  constructor
  · rintro ⟨target, place⟩
    exact ⟨_, _, _, target, by rw [Nat.zero_add], place⟩
  · rintro ⟨i, e, q, target, rfl, place⟩
    rw [Nat.zero_add]
    exact .assign target place

theorem assignedAt_ifElse {test : Expr} {body orelse : List Stmt} :
    AssignedAt receiver (.ifElse test body orelse) attr p ↔
      (∃ q, p = 0 :: q ∧ InItems (AssignedAt receiver) 0 body attr q) ∨
        ∃ q, p = 1 :: q ∧ InItems (AssignedAt receiver) 0 orelse attr q := by
  constructor
  · rintro (_ | ⟨stmt, place⟩ | ⟨stmt, place⟩)
    · exact .inl ⟨_, rfl, _, _, _, stmt, by rw [Nat.zero_add], place⟩
    · exact .inr ⟨_, rfl, _, _, _, stmt, by rw [Nat.zero_add], place⟩
  · rintro (⟨_, rfl, i, s, q, stmt, rfl, place⟩ | ⟨_, rfl, i, s, q, stmt, rfl, place⟩)
    · rw [Nat.zero_add]
      exact .ifBody stmt place
    · rw [Nat.zero_add]
      exact .ifOrelse stmt place

theorem assignedAt_forLoop {target iter : Expr} {body : List Stmt} :
    AssignedAt receiver (.forLoop target iter body) attr p ↔
      (∃ q, p = 0 :: q ∧ target.TargetAt receiver attr q) ∨
        ∃ q, p = 1 :: q ∧ InItems (AssignedAt receiver) 0 body attr q := by
  constructor
  · rintro (_ | _ | _ | place | ⟨stmt, place⟩)
    · exact .inl ⟨_, rfl, place⟩
    · exact .inr ⟨_, rfl, _, _, _, stmt, by rw [Nat.zero_add], place⟩
  · rintro (⟨q, rfl, place⟩ | ⟨_, rfl, i, s, q, stmt, rfl, place⟩)
    · exact .forTarget place
    · rw [Nat.zero_add]
      exact .forBody stmt place

theorem assignedAt_whileLoop {test : Expr} {body : List Stmt} :
    AssignedAt receiver (.whileLoop test body) attr p ↔
      InItems (AssignedAt receiver) 0 body attr p := by
  constructor
  · rintro (_ | _ | _ | _ | _ | ⟨stmt, place⟩)
    exact ⟨_, _, _, stmt, by rw [Nat.zero_add], place⟩
  · rintro ⟨i, s, q, stmt, rfl, place⟩
    rw [Nat.zero_add]
    exact .whileBody stmt place

mutual
theorem listed_receiverAssigns :
    ∀ s : Stmt, Listed (AssignedAt receiver s) (receiverAssigns receiver s)
  | .assign targets _ =>
    (Expr.listed_receiverTargetsIn targets 0).congr fun _ _ => assignedAt_assign.symm
  | .ifElse _ body orelse =>
    (Listed.children (listed_blockReceiverAssigns body 0)
      (listed_blockReceiverAssigns orelse 0)).congr fun _ _ => assignedAt_ifElse.symm
  | .forLoop target _ body =>
    (Listed.children (Expr.listed_receiverTargets target)
      (listed_blockReceiverAssigns body 0)).congr fun _ _ => assignedAt_forLoop.symm
  | .whileLoop _ body =>
    (listed_blockReceiverAssigns body 0).congr fun _ _ => assignedAt_whileLoop.symm
  | .functionDef _ | .classDef _ | .expr _ | .ret _ | .delete _ | .pass | .importNames _
  | .importFrom .. | .global _ => .nil nofun

theorem listed_blockReceiverAssigns : ∀ (body : List Stmt) (k : Nat),
    Listed (InItems (AssignedAt receiver) k body) (blockReceiverAssigns receiver body)
  | [], _ => .items_nil
  | s :: rest, k =>
    .items_cons (listed_receiverAssigns s) (listed_blockReceiverAssigns rest (k + 1))
end

end Stmt

/-! ## Instance methods -/

namespace MethodKind

/-- The names that mark a method as not of the instance. -/
def markers : List String := ["classmethod", "staticmethod"]

theorem ofMarker?_eq_none {name : String} : ofMarker? name = none ↔ name ∉ markers := by
  simp only [ofMarker?, markers, List.mem_cons, List.not_mem_nil, or_false, not_or]
  split
  · next h => simp [h]
  · next h => split <;> simp_all

theorem ofMarker?_ne_perInstance (name : String) : ofMarker? name ≠ some .perInstance := by
  simp only [ofMarker?]
  split
  · simp
  · split <;> simp

theorem ofExpr?_eq_none {e : Expr} : ofExpr? e = none ↔ ∀ marker ∈ markers, e ≠ .name marker := by
  simp only [ofExpr?, Option.bind_eq_none_iff, Expr.asName?_eq_some, ofMarker?_eq_none]
  constructor
  · rintro h marker mem rfl
    exact h marker rfl mem
  · rintro h marker rfl mem
    exact h marker mem rfl

theorem ofExpr?_ne_perInstance (e : Expr) : ofExpr? e ≠ some .perInstance := by
  rw [ofExpr?]
  intro h
  obtain ⟨name, -, kind⟩ := Option.bind_eq_some_iff.1 h
  exact ofMarker?_ne_perInstance name kind

theorem ofDecorators_eq_perInstance {decorators : List Expr} :
    ofDecorators decorators = .perInstance ↔ ∀ marker ∈ markers, .name marker ∉ decorators := by
  rw [ofDecorators]
  cases h : decorators.findSome? ofExpr? with
  | none =>
    rw [List.findSome?_eq_none_iff] at h
    simp only [Option.getD_none, true_iff]
    exact fun marker mem decorator => ofExpr?_eq_none.1 (h _ decorator) marker mem rfl
  | some kind =>
    obtain ⟨e, he, of_e⟩ := List.exists_of_findSome?_eq_some h
    constructor
    · rintro rfl
      exact absurd of_e (ofExpr?_ne_perInstance e)
    · intro none_marks
      rw [ofExpr?_eq_none.2 (fun marker mem eq => none_marks marker mem (eq ▸ he))] at of_e
      cases of_e

theorem rebinding?_eq_none {name : String} {s : Stmt} :
    rebinding? name s = none ↔ ∀ marker ∈ markers, ∀ targets args keywords,
      s = .assign targets (.call (.name marker) args keywords) → .name name ∉ targets := by
  constructor
  · rintro h marker mem targets args keywords rfl bound
    have is_bound : targets.any (·.isName name) = true :=
      List.any_eq_true.2 ⟨_, bound, Expr.isName_iff.2 rfl⟩
    rw [rebinding?, if_pos is_bound, ofExpr?_eq_none] at h
    exact h marker mem rfl
  · intro h
    unfold rebinding?
    split
    · next targets func args keywords =>
      split
      · next is_bound =>
        obtain ⟨e, bound, is_name⟩ := List.any_eq_true.1 is_bound
        rw [Expr.isName_iff.1 is_name] at bound
        refine ofExpr?_eq_none.2 fun marker mem eq => ?_
        subst eq
        exact h marker mem targets args keywords rfl bound
      · rfl
    · rfl

theorem rebinding?_ne_perInstance (name : String) (s : Stmt) :
    rebinding? name s ≠ some .perInstance := by
  unfold rebinding?
  split
  · split
    · exact ofExpr?_ne_perInstance _
    · nofun
  · nofun

end MethodKind

namespace ClassDef

open MethodKind (markers)

/-- Nothing makes a class or static method of `method`: no assignment of the class body binds its
name to the call of a marker, and no decorator is one. -/
structure IsInstanceMethod (c : Class) (method : Function) : Prop where
  unrebound : ∀ marker ∈ markers, ∀ targets args keywords,
    .assign targets (.call (.name marker) args keywords) ∈ c.body → .name method.name ∉ targets
  undecorated : ∀ marker ∈ markers, .name marker ∉ method.decorators

theorem methodKind_eq_perInstance {c : Class} {method : Function} :
    c.methodKind method = .perInstance ↔ c.IsInstanceMethod method := by
  rw [methodKind]
  cases h : (c.body.filterMap (MethodKind.rebinding? method.name)).getLast? with
  | none =>
    rw [List.getLast?_eq_none_iff, List.filterMap_eq_nil_iff] at h
    rw [Option.getD_none, MethodKind.ofDecorators_eq_perInstance]
    refine ⟨fun undecorated => ⟨?_, undecorated⟩, (·.undecorated)⟩
    exact fun marker mem targets args keywords hs =>
      MethodKind.rebinding?_eq_none.1 (h _ hs) marker mem targets args keywords rfl
  | some kind =>
    obtain ⟨s, hs, rebinds⟩ := List.mem_filterMap.1 (List.mem_of_getLast? h)
    constructor
    · rintro rfl
      exact absurd rebinds (MethodKind.rebinding?_ne_perInstance _ s)
    · intro inst
      have kept : MethodKind.rebinding? method.name s = none :=
        MethodKind.rebinding?_eq_none.2 fun marker mem targets args keywords eq =>
          inst.unrebound marker mem targets args keywords (eq ▸ hs)
      rw [kept] at rebinds
      cases rebinds

/-- An instance method that is statement `i` of the class body assigns `attr` through its first
parameter, at the place `p` of its own statement `j`. -/
inductive AttributeAt (c : Class) (attr : String) : List Nat → Prop where
  | intro {i j : Nat} {method : Function} {receiver : Param} {params : List Param} {s : Stmt}
      {p : List Nat} (inBody : c.body[i]? = some (.functionDef method))
      (ofInstance : c.IsInstanceMethod method) (has_receiver : method.params = receiver :: params)
      (stmt : method.body[j]? = some s) (place : s.AssignedAt receiver.name attr p) :
      AttributeAt c attr (i :: j :: p)

/-- What a statement of the class body contributes to the instance attributes. -/
def assignedBy (c : Class) : Stmt → List String
  | .functionDef method =>
    if c.methodKind method = .perInstance then method.receiverAttributes else []
  | _ => []

theorem instanceAttributes_eq (c : Class) :
    c.instanceAttributes = distinct (c.body.flatMap c.assignedBy) := by
  simp only [instanceAttributes, instanceMethods, methods]
  congr 1
  generalize c.body = body
  induction body with
  | nil => rfl
  | cons s rest ih =>
    rw [List.flatMap_cons, ← ih]
    cases s with
    | functionDef method =>
      by_cases kind : c.methodKind method = .perInstance <;> simp [assignedBy, kind]
    | _ => rfl

/-- Where a statement of the class body assigns `attr` as an instance method. -/
def MethodAssignsAt (c : Class) (s : Stmt) (attr : String) (p : List Nat) : Prop :=
  ∃ method receiver params, s = .functionDef method ∧ c.IsInstanceMethod method ∧
    method.params = receiver :: params ∧
    InItems (Stmt.AssignedAt receiver.name) 0 method.body attr p

theorem attributeAt_iff {c : Class} {attr : String} {p : List Nat} :
    c.AttributeAt attr p ↔ InItems c.MethodAssignsAt 0 c.body attr p := by
  constructor
  · rintro ⟨inBody, ofInstance, has_receiver, stmt, place⟩
    exact ⟨_, _, _, inBody, by rw [Nat.zero_add], _, _, _, rfl, ofInstance, has_receiver, _, _, _,
      stmt, by rw [Nat.zero_add], place⟩
  · rintro ⟨i, _, _, inBody, rfl, method, receiver, params, rfl, ofInstance, has_receiver, j, s, q,
      stmt, rfl, place⟩
    rw [Nat.zero_add, Nat.zero_add]
    exact .intro inBody ofInstance has_receiver stmt place

theorem listed_assignedBy (c : Class) (s : Stmt) :
    Listed (c.MethodAssignsAt s) (c.assignedBy s) := by
  cases s with
  | functionDef method =>
    by_cases kind : c.methodKind method = .perInstance
    · rw [assignedBy, if_pos kind, FunctionDef.receiverAttributes]
      cases eq : method.params with
      | nil =>
        refine .nil ?_
        rintro attr p ⟨_, receiver, params, ⟨⟩, -, has_receiver, -⟩
        rw [eq] at has_receiver
        cases has_receiver
      | cons receiver params =>
        refine (Stmt.listed_blockReceiverAssigns method.body 0).congr fun attr p => ?_
        constructor
        · have ofInstance := methodKind_eq_perInstance.1 kind
          exact fun place => ⟨method, receiver, params, rfl, ofInstance, eq, place⟩
        · rintro ⟨_, receiver', params', ⟨⟩, -, has_receiver, place⟩
          obtain ⟨rfl, -⟩ := List.cons.inj (eq.symm.trans has_receiver)
          exact place
    · rw [assignedBy, if_neg kind]
      refine .nil ?_
      rintro attr p ⟨_, _, _, ⟨⟩, ofInstance, -⟩
      exact kind (methodKind_eq_perInstance.2 ofInstance)
  | _ => exact .nil fun _ _ ⟨_, _, _, eq, _⟩ => nomatch eq

theorem listed_attributes (c : Class) :
    Listed c.AttributeAt (c.body.flatMap c.assignedBy) :=
  (Listed.flatMap (fun s _ => c.listed_assignedBy s) 0).congr fun _ _ => attributeAt_iff.symm

end ClassDef

/-! ## Wrappers -/

namespace Stmt

/-- A function with wrappers added, the last outermost; other statements stay. -/
def wrap (wrappers : List Reference) : Stmt → Stmt
  | .functionDef f => .functionDef (wrappers.foldl FunctionDef.addWrapper f)
  | s => s

@[simp] theorem rebinding?_wrap (name : String) (wrappers : List Reference) (s : Stmt) :
    MethodKind.rebinding? name (s.wrap wrappers) = MethodKind.rebinding? name s := by
  cases s <;> rfl

end Stmt

namespace ClassDef

/-- A class whose methods get wrappers, each its own. -/
def wrapMethods (c : Class) (wrappers : Nat → List Reference) : Class :=
  { c with body := c.body.zipIdx.map fun x => x.1.wrap (wrappers x.2) }

/-- A woven reference is no marker. -/
theorem ofDecorators_addWrappers (wrappers : List Reference) (decorators : List Expr) :
    MethodKind.ofDecorators (wrappers.map Reference.woven ++ decorators) =
      MethodKind.ofDecorators decorators := by
  have none_marks : (wrappers.map Reference.woven).findSome? MethodKind.ofExpr? = none := by
    simp [List.findSome?_eq_none_iff, MethodKind.ofExpr?, Reference.woven, Expr.asName?]
  rw [MethodKind.ofDecorators, MethodKind.ofDecorators, List.findSome?_append, none_marks,
    Option.none_or]

theorem methodKind_wrapMethods (c : Class) (wrappers : Nat → List Reference) (method : Function)
    (added : List Reference) :
    (c.wrapMethods wrappers).methodKind (added.foldl FunctionDef.addWrapper method) =
      c.methodKind method := by
  have rebindings : (c.wrapMethods wrappers).body.filterMap (MethodKind.rebinding? method.name) =
      c.body.filterMap (MethodKind.rebinding? method.name) := by
    conv_rhs => rw [← List.zipIdx_map_fst 0 c.body]
    simp only [wrapMethods, List.filterMap_map]
    exact List.filterMap_congr fun x _ => Stmt.rebinding?_wrap _ _ _
  rw [methodKind, methodKind, FunctionDef.foldl_addWrapper, rebindings,
    ofDecorators_addWrappers]

theorem assignedBy_wrap (c : Class) (wrappers : Nat → List Reference) (added : List Reference)
    (s : Stmt) : (c.wrapMethods wrappers).assignedBy (s.wrap added) = c.assignedBy s := by
  cases s with
  | functionDef method =>
    simp only [Stmt.wrap, assignedBy, methodKind_wrapMethods]
    rw [FunctionDef.foldl_addWrapper]
    rfl
  | _ => rfl

theorem instanceAttributes_wrapMethods (c : Class) (wrappers : Nat → List Reference) :
    (c.wrapMethods wrappers).instanceAttributes = c.instanceAttributes := by
  rw [instanceAttributes_eq, instanceAttributes_eq]
  congr 1
  conv_rhs => rw [← List.zipIdx_map_fst 0 c.body]
  rw [List.flatMap_map]
  simp only [wrapMethods, List.flatMap_map]
  exact List.flatMap_congr fun x _ => c.assignedBy_wrap wrappers _ _

/-- The instance attributes are the names that an instance method assigns somewhere through its
first parameter, each once, in the order of their first places; wrappers on methods change none of
it. -/
theorem instanceAttributes_by_place (c : Class) :
    c.instanceAttributes.Nodup ∧
      (∀ attr, attr ∈ c.instanceAttributes ↔ ∃ p, c.AttributeAt attr p) ∧
      (c.instanceAttributes.Pairwise fun a b =>
        ∃ p, c.AttributeAt a p ∧ ∀ q, c.AttributeAt b q → p < q) ∧
      ∀ wrappers, (c.wrapMethods wrappers).instanceAttributes = c.instanceAttributes := by
  have listed := c.listed_attributes
  refine ⟨nodup_distinct _, fun attr => ?_, ?_, c.instanceAttributes_wrapMethods⟩
  · rw [instanceAttributes_eq, mem_distinct, listed.mem_iff]
  · rw [instanceAttributes_eq]
    exact listed.pairwise_distinct

/-- The method `build` is rebound as a class method, so `cls.shared` is no instance attribute. -/
example :
    instanceAttributes ⟨"Shelf", [], [], [], [
      .functionDef ⟨"fill", [⟨"self", none⟩], [], [
        .forLoop (.tuple [.attribute (.name "self") "row", .name "book"]) (.name "stock") [
          .assign [.attribute (.name "self") "last", .attribute (.name "self") "row"]
            (.name "book")]]⟩,
      .functionDef ⟨"build", [⟨"cls", none⟩], [], [
        .assign [.attribute (.name "cls") "shared"] (.name "stock")]⟩,
      .assign [.name "build"] (.call (.name "classmethod") [.name "build"] [])]⟩ =
      ["row", "last"] := by
  decide

end ClassDef

end Loom
