import Loom.Proofs.Tree.Json
import Loom.Proofs.Weave.Matching
import Loom.Proofs.Weave.Rewriting
import Loom.Proofs.Weave.WellFormed

/-!
# Weaving and nesting

How deep the document of a tree nests after each stage of a weaving. A statement of a block stands
three containers deeper than the statement around it. What a weaving puts into a declaration fits
wherever the declaration itself does, with one exception: the metaclass of a class that stands at
the last level that can hold blocks (`Stmt.nesting_weave_le_iff`).
-/

namespace Loom

open Document (nesting_record_le nesting_array_le nesting_lt_record nesting_lt_array nestingLimit)

/-! ## Statements -/

/-- How deep the document of an expression nests. -/
def Expr.nesting (e : Expr) : Nat := e.toDocument.nesting

/-- How deep the document of a statement nests. -/
def Stmt.nesting (s : Stmt) : Nat := s.toDocument.nesting

/-- What stands in the header of a class nests within `n`. -/
structure ClassDef.HeaderWithin (n : Nat) (c : Class) : Prop where
  bases : ∀ b ∈ c.bases, b.nesting ≤ n
  keywords : ∀ k ∈ c.keywords, k.toDocument.nesting ≤ n
  decorators : ∀ d ∈ c.decorators, d.nesting ≤ n

namespace Stmt

theorem nesting_functionDef_le {f : Function} {n : Nat} : (functionDef f).nesting ≤ n + 3 ↔
    (∀ p ∈ f.params, p.toDocument.nesting ≤ n) ∧ (∀ d ∈ f.decorators, d.nesting ≤ n) ∧
      ∀ s ∈ f.body, s.nesting ≤ n := by
  simp [nesting, Expr.nesting, toDocument, nesting_record_le, nesting_array_le,
    toDocuments_eq_map, Expr.toDocuments_eq_map]

theorem nesting_classDef_le {c : Class} {n : Nat} : (classDef c).nesting ≤ n + 3 ↔
    c.HeaderWithin n ∧ ∀ s ∈ c.body, s.nesting ≤ n := by
  have parts : c.HeaderWithin n ↔ (∀ b ∈ c.bases, b.nesting ≤ n) ∧
      (∀ k ∈ c.keywords, k.toDocument.nesting ≤ n) ∧ ∀ d ∈ c.decorators, d.nesting ≤ n :=
    ⟨fun h => ⟨h.1, h.2, h.3⟩, fun h => ⟨h.1, h.2.1, h.2.2⟩⟩
  simp [parts, nesting, Expr.nesting, toDocument, nesting_record_le, nesting_array_le,
    toDocuments_eq_map, Expr.toDocuments_eq_map, Expr.keywordDocuments_eq_map, and_assoc]

theorem nesting_ifElse_le {test : Expr} {body orelse : List Stmt} {n : Nat} :
    (ifElse test body orelse).nesting ≤ n + 3 ↔ test.nesting ≤ n + 1 ∧
      (∀ s ∈ body, s.nesting ≤ n) ∧ ∀ s ∈ orelse, s.nesting ≤ n := by
  simp [nesting, Expr.nesting, toDocument, nesting_record_le, nesting_array_le, toDocuments_eq_map]

theorem nesting_forLoop_le {target iter : Expr} {body : List Stmt} {n : Nat} :
    (forLoop target iter body).nesting ≤ n + 3 ↔ target.nesting ≤ n + 1 ∧ iter.nesting ≤ n + 1 ∧
      ∀ s ∈ body, s.nesting ≤ n := by
  simp [nesting, Expr.nesting, toDocument, nesting_record_le, nesting_array_le, toDocuments_eq_map]

theorem nesting_whileLoop_le {test : Expr} {body : List Stmt} {n : Nat} :
    (whileLoop test body).nesting ≤ n + 3 ↔
      test.nesting ≤ n + 1 ∧ ∀ s ∈ body, s.nesting ≤ n := by
  simp [nesting, Expr.nesting, toDocument, nesting_record_le, nesting_array_le, toDocuments_eq_map]

theorem nesting_assign_le {targets : List Expr} {value : Expr} {n : Nat} :
    (assign targets value).nesting ≤ n + 3 ↔
      (∀ t ∈ targets, t.nesting ≤ n) ∧ value.nesting ≤ n + 1 := by
  simp [nesting, Expr.nesting, toDocument, nesting_record_le, nesting_array_le,
    Expr.toDocuments_eq_map]

/-- A field of a variant stands two containers deep. -/
theorem nesting_field (tag key : String) {fs : Document.Record} {d : Document}
    (h : (key, d) ∈ fs) : d.nesting + 2 ≤ (tagged tag (.record fs)).nesting := by
  have inner : d.nesting < (Document.record fs).nesting := nesting_lt_record h
  rw [nesting_tagged]
  omega

/-- A statement nests three containers deeper than what its blocks hold. -/
theorem nesting_of_mem_blocks {s t : Stmt} (h : t ∈ s.blocks) : t.nesting + 3 ≤ s.nesting := by
  have inside : ∀ {tag : String} (key : String) {fs : Document.Record} (body : List Stmt),
      t ∈ body → (key, .array (toDocuments body)) ∈ fs →
        t.nesting + 3 ≤ (tagged tag (.record fs)).nesting := by
    intro tag key fs body ht hf
    have block := nesting_field tag key hf
    have inner : t.nesting < (Document.array (toDocuments body)).nesting :=
      nesting_lt_array (by rw [toDocuments_eq_map]; exact List.mem_map_of_mem ht)
    omega
  cases s with
  | functionDef f => exact inside "body" f.body h (by simp)
  | classDef c => exact inside "body" c.body h (by simp)
  | ifElse test body orelse =>
    rcases List.mem_append.1 h with h | h
    · exact inside "body" body h (by simp)
    · exact inside "orelse" orelse h (by simp)
  | forLoop target iter body => exact inside "body" body h (by simp)
  | whileLoop test body => exact inside "body" body h (by simp)
  | assign | expr | ret | delete | pass | importNames | importFrom | global => cases h

/-- So does a statement whose blocks are empty. -/
theorem three_le_nesting {s : Stmt} (h : s.isSimple = false) : 3 ≤ s.nesting := by
  have bracket : ∀ {tag : String} (key : String) {fs : Document.Record} (items : List Document),
      (key, .array items) ∈ fs → 3 ≤ (tagged tag (.record fs)).nesting := by
    intro tag key fs items hf
    have block := nesting_field tag key hf
    simp only [Document.nesting] at block
    omega
  cases s with
  | functionDef f => exact bracket "body" (toDocuments f.body) (by simp)
  | classDef c => exact bracket "body" (toDocuments c.body) (by simp)
  | ifElse test body orelse =>
    exact bracket "body" (toDocuments body) (by simp)
  | forLoop target iter body =>
    exact bracket "body" (toDocuments body) (by simp)
  | whileLoop test body => exact bracket "body" (toDocuments body) (by simp)
  | assign | expr | ret | delete | pass | importNames | importFrom | global => cases h

end Stmt

/-! ## Instance attributes

An attribute that a method assigns takes room of its own, so that its class has room for a
property. -/

namespace Expr

theorem nesting_pos (e : Expr) : 0 < e.nesting := Expr.nesting_toDocument_pos e

theorem nesting_attribute (value : Expr) (attr : String) :
    (Expr.attribute value attr).nesting = value.nesting + 2 := by
  simp [nesting, toDocument, Document.record, Document.nesting, Document.fieldsNesting]

theorem nesting_tuple {items : List Expr} {e : Expr} (h : e ∈ items) :
    e.nesting + 2 ≤ (tuple items).nesting := by
  have inner : e.toDocument.nesting < (Document.array (toDocuments items)).nesting :=
    nesting_lt_array (by rw [toDocuments_eq_map]; exact List.mem_map_of_mem h)
  simp only [nesting, toDocument, nesting_tagged]
  omega

theorem nesting_list {items : List Expr} {e : Expr} (h : e ∈ items) :
    e.nesting + 2 ≤ (list items).nesting := by
  have inner : e.toDocument.nesting < (Document.array (toDocuments items)).nesting :=
    nesting_lt_array (by rw [toDocuments_eq_map]; exact List.mem_map_of_mem h)
  simp only [nesting, toDocument, nesting_tagged]
  omega

theorem nesting_call_le {func : Expr} {args : List Expr} {keywords : List (Keyword Expr)}
    {n : Nat} :
    (call func args keywords).nesting ≤ n + 3 ↔ func.nesting ≤ n + 1 ∧
      (∀ a ∈ args, a.nesting ≤ n) ∧ ∀ k ∈ keywords, k.toDocument.nesting ≤ n := by
  simp [nesting, toDocument, nesting_record_le, nesting_array_le, toDocuments_eq_map,
    keywordDocuments_eq_map]

mutual
theorem three_le_nesting {receiver attr : String} :
    ∀ e : Expr, attr ∈ e.receiverTargets receiver → 3 ≤ e.nesting
  | .attribute value _, _ => by
    have := value.nesting_pos
    rw [nesting_attribute]
    omega
  | .tuple items, h => by
    obtain ⟨e, he, deep⟩ := exists_three_le_nesting items h
    have := nesting_tuple he
    omega
  | .list items, h => by
    obtain ⟨e, he, deep⟩ := exists_three_le_nesting items h
    have := nesting_list he
    omega
  | .name _, h | .call .., h | .constant _, h | .compare .., h | .binOp .., h | .woven _, h => by
    simp [receiverTargets] at h

theorem exists_three_le_nesting {receiver attr : String} :
    ∀ es : List Expr, attr ∈ receiverTargetsIn receiver es → ∃ e ∈ es, 3 ≤ e.nesting
  | [], h => by simp [receiverTargetsIn] at h
  | e :: es, h => by
    rcases List.mem_append.1 h with h | h
    · exact ⟨e, List.mem_cons_self .., three_le_nesting e h⟩
    · obtain ⟨d, hd, deep⟩ := exists_three_le_nesting es h
      exact ⟨d, List.mem_cons_of_mem _ hd, deep⟩
end

end Expr

namespace Stmt

mutual
theorem five_le_nesting {receiver attr : String} :
    ∀ s : Stmt, attr ∈ s.receiverAssigns receiver → 5 ≤ s.nesting
  | .assign targets value, h => by
    obtain ⟨e, he, deep⟩ := Expr.exists_three_le_nesting targets h
    have inner : e.nesting < (Document.array (Expr.toDocuments targets)).nesting :=
      nesting_lt_array (by rw [Expr.toDocuments_eq_map]; exact List.mem_map_of_mem he)
    have field : (Document.array (Expr.toDocuments targets)).nesting + 2 ≤
        (assign targets value).nesting := nesting_field _ "targets" (by simp)
    omega
  | .ifElse test body orelse, h => by
    rcases List.mem_append.1 h with h | h
    · obtain ⟨t, ht, deep⟩ := exists_five_le_nesting body h
      have := nesting_of_mem_blocks (s := .ifElse test body orelse) (List.mem_append_left _ ht)
      omega
    · obtain ⟨t, ht, deep⟩ := exists_five_le_nesting orelse h
      have := nesting_of_mem_blocks (s := .ifElse test body orelse) (List.mem_append_right _ ht)
      omega
  | .forLoop target iter body, h => by
    rcases List.mem_append.1 h with h | h
    · have deep := Expr.three_le_nesting target h
      have field : target.nesting + 2 ≤ (forLoop target iter body).nesting :=
        nesting_field _ "target" (by simp)
      omega
    · obtain ⟨t, ht, deep⟩ := exists_five_le_nesting body h
      have := nesting_of_mem_blocks (s := .forLoop target iter body) ht
      omega
  | .whileLoop test body, h => by
    obtain ⟨t, ht, deep⟩ := exists_five_le_nesting body h
    have := nesting_of_mem_blocks (s := .whileLoop test body) ht
    omega
  | .functionDef _, h | .classDef _, h | .expr _, h | .ret _, h | .delete _, h | .pass, h
  | .importNames _, h | .importFrom .., h | .global _, h => by simp [receiverAssigns] at h

theorem exists_five_le_nesting {receiver attr : String} :
    ∀ body : List Stmt, attr ∈ blockReceiverAssigns receiver body → ∃ s ∈ body, 5 ≤ s.nesting
  | [], h => by simp [blockReceiverAssigns] at h
  | s :: rest, h => by
    rcases List.mem_append.1 h with h | h
    · exact ⟨s, List.mem_cons_self .., five_le_nesting s h⟩
    · obtain ⟨t, ht, deep⟩ := exists_five_le_nesting rest h
      exact ⟨t, List.mem_cons_of_mem _ ht, deep⟩
end

end Stmt

/-! ## Edits -/

theorem Reference.nesting_woven (r : Reference) : r.woven.nesting = 2 := by
  simp [woven, Expr.nesting, Expr.toDocument, Woven.nesting_toDocument]

theorem Keyword.nesting_toDocument (k : Keyword Expr) :
    k.toDocument.nesting = k.value.nesting + 1 := by
  simp [toDocument, Document.record, Document.nesting, Document.fieldsNesting, Expr.nesting]

theorem Keyword.mem_set (arg : String) (value : Expr) (ks : List (Keyword Expr)) :
    ⟨arg, value⟩ ∈ set arg value ks := by
  induction ks with
  | nil => simp [set]
  | cons k ks ih =>
    simp only [set]
    split
    · exact List.mem_cons_self ..
    · exact List.mem_cons_of_mem _ ih

theorem Stmt.nesting_unbind? {name : String} {s s' : Stmt} {n : Nat} (hs : s.nesting ≤ n)
    (h : s.unbind? name = some s') : s'.nesting ≤ n := by
  cases s with
  | assign targets value =>
    simp only [unbind?] at h
    split at h
    · cases h
    · cases h
      have field : (Document.array (Expr.toDocuments targets)).nesting + 2 ≤
          (assign targets value).nesting := nesting_field _ "targets" (by simp)
      obtain ⟨k, rfl⟩ : ∃ k, n = k + 3 := ⟨n - 3, by simp only [Document.nesting] at field; omega⟩
      obtain ⟨htargets, hvalue⟩ := nesting_assign_le.1 hs
      exact nesting_assign_le.2 ⟨fun t ht => htargets t (List.mem_filter.1 ht).1, hvalue⟩
  | _ => cases h; exact hs

namespace ClassDef

theorem nesting_accessorBinding (attr : String) (getter setter deleter : Option Reference) :
    (accessorBinding attr getter setter deleter).nesting ≤ 8 := by
  have keyword : ∀ {arg : String} {accessor : Option Reference} {k : Keyword Expr},
      accessorKeyword arg accessor = some k → k.toDocument.nesting ≤ 3 := by
    intro arg accessor k hk
    obtain ⟨r, -, rfl⟩ := Option.map_eq_some_iff.1 hk
    simp [Keyword.nesting_toDocument, r.nesting_woven]
  refine (Stmt.nesting_assign_le (n := 5)).2 ⟨by simp [Expr.nesting, Expr.toDocument], ?_⟩
  refine (Expr.nesting_call_le (n := 3)).2 ⟨by simp [Expr.nesting, Expr.toDocument], by simp, ?_⟩
  intro k hk
  simp only [List.mem_filterMap, id, exists_eq_right, List.mem_cons, List.not_mem_nil,
    or_false] at hk
  rcases hk with hk | hk | hk <;> exact keyword hk.symm

/-- A class with instance attributes has room for properties. -/
theorem eight_le_of_mem_instanceAttributes {c : Class} {attr : String} {n : Nat}
    (body : ∀ s ∈ c.body, s.nesting ≤ n) (h : attr ∈ c.instanceAttributes) : 8 ≤ n := by
  obtain ⟨f, receiver, hf, hattr⟩ := exists_of_mem_instanceAttributes h
  obtain ⟨s, hs, deep⟩ := Stmt.exists_five_le_nesting f.body hattr
  have inner := Stmt.nesting_of_mem_blocks (s := .functionDef f) hs
  have outer := body _ hf
  omega

theorem nesting_unbind {c : Class} {n : Nat} (body : ∀ s ∈ c.body, s.nesting ≤ n) (name : String) :
    ∀ s ∈ (c.unbind name).body, s.nesting ≤ n := by
  intro s hs
  obtain ⟨t, ht, eq⟩ := List.mem_filterMap.1 hs
  exact Stmt.nesting_unbind? (body t ht) eq

theorem nesting_setHook {c : Class} {n : Nat} (hook : Reference)
    (body : ∀ s ∈ c.body, s.nesting ≤ n) : ∀ s ∈ (c.setHook hook).body, s.nesting ≤ n := by
  have bare := nesting_unbind body "__metaclass__"
  intro s hs
  simp only [setHook, fillBody] at hs
  split at hs
  · cases List.mem_singleton.1 hs
    exact Nat.zero_le n
  · exact bare s hs

theorem nesting_accessWith {c : Class} {n : Nat} (a : Advice) (attr : String)
    (body : ∀ s ∈ c.body, s.nesting ≤ n) (room : 8 ≤ n) :
    ∀ s ∈ (accessWith a attr c).body, s.nesting ≤ n := by
  cases a with
  | accessorTriple p getter setter deleter =>
    intro s hs
    rcases List.mem_append.1 hs with hs | hs
    · exact nesting_unbind body attr s hs
    · cases List.mem_singleton.1 hs
      exact Nat.le_trans (nesting_accessorBinding attr getter setter deleter) room
  | functionWrapper | classHook => exact body

/-- The edits of a class keep its body within the bounds it had. -/
theorem nesting_weave {c : Class} {w : Worklist} {n : Nat} (address : Address)
    (body : ∀ s ∈ c.body, s.nesting ≤ n) :
    ∀ s ∈ (c.weave w address).node.body, s.nesting ≤ n := by
  rw [weave_eq]
  have hooked : ∀ s ∈ ((w.hooksAt address.text).foldl setHook c).body, s.nesting ≤ n :=
    List.foldlRecOn (motive := fun c : Class => ∀ s ∈ c.body, s.nesting ≤ n) _ setHook body
      fun c hc r _ => nesting_setHook r hc
  refine List.foldlRecOn (motive := fun c : Class => ∀ s ∈ c.body, s.nesting ≤ n) _ _ hooked
    fun c hc t ht => ?_
  obtain ⟨-, attr⟩ := mem_trials.1 (List.mem_filter.1 ht).1
  exact nesting_accessWith t.1 t.2 hc (eight_le_of_mem_instanceAttributes hooked attr)

theorem headerWithin_body {n : Nat} (c : Class) (body : List Stmt) :
    HeaderWithin n { c with body } ↔ c.HeaderWithin n :=
  ⟨fun h => ⟨h.1, h.2, h.3⟩, fun h => ⟨h.1, h.2, h.3⟩⟩

theorem headerWithin_accessWith {n : Nat} (a : Advice) (attr : String) (c : Class) :
    (accessWith a attr c).HeaderWithin n ↔ c.HeaderWithin n := by
  cases a with
  | accessorTriple => exact headerWithin_body c _
  | functionWrapper | classHook => exact Iff.rfl

/-- A class keeps its header, the metaclass that a hook gives it apart. -/
theorem headerWithin_weave {c : Class} (w : Worklist) {n : Nat} (address : Address)
    (h : c.HeaderWithin n) :
    (c.weave w address).node.HeaderWithin n ↔ (w.hooksAt address.text ≠ [] → 3 ≤ n) := by
  have accessed : ∀ (ts : List (Advice × String)) (d : Class),
      (ts.foldl (fun c t => accessWith t.1 t.2 c) d).HeaderWithin n ↔ d.HeaderWithin n := by
    intro ts
    induction ts with
    | nil => exact fun d => Iff.rfl
    | cons t ts ih => exact fun d => (ih _).trans (headerWithin_accessWith t.1 t.2 d)
  rw [weave_eq, accessed, foldl_setHook]
  cases last : (w.hooksAt address.text).getLast? with
  | none => simpa [List.getLast?_eq_none_iff.1 last] using h
  | some hook =>
    have some : w.hooksAt address.text ≠ [] := by
      intro none
      simp [none] at last
    have width : (Keyword.toDocument ⟨"metaclass", hook.woven⟩).nesting = 3 := by
      rw [Keyword.nesting_toDocument, hook.nesting_woven]
    simp only [Option.map_some, Option.getD_some, ne_eq, some, not_false_eq_true, forall_const]
    constructor
    · intro fits
      have := fits.keywords _ (Keyword.mem_set "metaclass" hook.woven c.keywords)
      omega
    · intro room
      refine ⟨h.bases, Keyword.forall_mem_set ?_ h.keywords, h.decorators⟩
      omega

end ClassDef

/-! ## Walks -/

namespace Stmt

/-- The address inside which the statements of the blocks stand. -/
def inner (address : Address) : Stmt → Address
  | .functionDef f => address.child f.name
  | .classDef c => address.child c.name
  | _ => address

/-- A class that a hook matches stands exactly `depth` blocks inside the statement, or is the
statement itself at depth zero. -/
def HookedAt (w : Worklist) : (depth : Nat) → Address → Stmt → Prop
  | 0, address, .classDef c => w.hooksAt (address.child c.name).text ≠ []
  | 0, _, _ => False
  | depth + 1, address, s => ∃ t ∈ s.blocks, HookedAt w depth (s.inner address) t

theorem HookedAt.isSimple_eq_false {w : Worklist} {depth : Nat} {address : Address} {s : Stmt}
    (h : s.HookedAt w depth address) : s.isSimple = false := by
  cases s with
  | functionDef | classDef | ifElse | forLoop | whileLoop => rfl
  | assign | expr | ret | delete | pass | importNames | importFrom | global =>
    cases depth with
    | zero => exact h.elim
    | succ =>
      obtain ⟨t, ht, -⟩ := h
      cases ht

/-- The room of a statement that holds `depth` more levels of blocks. -/
abbrev roomFor (depth : Nat) : Nat := 3 * depth + 2

/-- Weaving a block keeps its statements within their room unless a hook matches at the last level
that has blocks. -/
theorem forall_weave_le_iff {w : Worklist} {address : Address} {body : List Stmt} {depth : Nat}
    (ih : ∀ s ∈ body, ∀ depth, s.nesting ≤ roomFor (depth + 1) →
      ((s.weave w address).node.nesting ≤ roomFor (depth + 1) ↔ ¬ s.HookedAt w depth address))
    (h : ∀ s ∈ body, s.nesting ≤ roomFor depth) :
    (∀ t ∈ body.map fun s => (s.weave w address).node, t.nesting ≤ roomFor depth) ↔
      ∀ s ∈ body, ∀ k, depth = k + 1 → ¬ s.HookedAt w k address := by
  rw [List.forall_mem_map]
  refine forall₂_congr fun s hs => ?_
  cases depth with
  | zero =>
    have simple : s.isSimple = true := by
      cases deep : s.isSimple with
      | true => rfl
      | false =>
        have compound := three_le_nesting deep
        have small : s.nesting ≤ 2 := h s hs
        omega
    simpa [weave_of_isSimple simple] using h s hs
  | succ depth => simpa using ih s hs depth (h s hs)

theorem nesting_weave_le_iff (w : Worklist) : ∀ (address : Address) (s : Stmt) (depth : Nat),
    s.nesting ≤ roomFor (depth + 1) →
    ((s.weave w address).node.nesting ≤ roomFor (depth + 1) ↔ ¬ s.HookedAt w depth address) := by
  refine walk_induct w ?function ?cls ?ifElse ?forLoop ?whileLoop ?simple
  case function =>
    intro address f ih depth h
    obtain ⟨hparams, hdecorators, hbody⟩ := (nesting_functionDef_le (n := roomFor depth)).1 h
    have wrappers : ∀ d ∈ (w.wrappersAt (address.child f.name).text).reverse.map Reference.woven ++
        f.decorators, d.nesting ≤ roomFor depth := by
      intro d hd
      rcases List.mem_append.1 hd with hd | hd
      · obtain ⟨r, -, rfl⟩ := List.mem_map.1 hd
        rw [r.nesting_woven]
        exact Nat.le_add_left 2 _
      · exact hdecorators d hd
    rw [weave_functionDef, FunctionDef.weave_eq]
    refine (nesting_functionDef_le (n := roomFor depth)).trans ?_
    rw [forall_weave_le_iff ih hbody]
    rw [and_iff_right hparams, and_iff_right wrappers]
    cases depth with
    | zero => simp [HookedAt]
    | succ depth => simp [HookedAt, blocks, inner]
  case cls =>
    intro address c ih depth h
    obtain ⟨hheader, hbody⟩ := (nesting_classDef_le (n := roomFor depth)).1 h
    have edited := ClassDef.nesting_weave (w := w) (address.child c.name) hbody
    have header := ClassDef.headerWithin_weave w (address.child c.name) hheader
    have members : (∀ s ∈ (c.weave w (address.child c.name)).node.body, ∀ k, depth = k + 1 →
        ¬ s.HookedAt w k (address.child c.name)) ↔
        ∀ s ∈ c.body, ∀ k, depth = k + 1 → ¬ s.HookedAt w k (address.child c.name) := by
      constructor
      · intro none s hs k eq hooked
        exact none s ((ClassDef.mem_weave hooked.isSimple_eq_false c w _).2 hs) k eq hooked
      · intro none s hs k eq hooked
        exact none s ((ClassDef.mem_weave hooked.isSimple_eq_false c w _).1 hs) k eq hooked
    rw [weave_classDef]
    refine (nesting_classDef_le (n := roomFor depth)).trans ?_
    rw [ClassDef.headerWithin_body, header, forall_weave_le_iff ih edited, members]
    cases depth with
    | zero =>
      have full : ¬ 3 ≤ roomFor 0 := by decide
      simp [HookedAt, full]
    | succ depth =>
      have room : 3 ≤ roomFor (depth + 1) := by simp only [roomFor]; omega
      simp [HookedAt, blocks, inner, room]
  case ifElse =>
    intro address test body orelse ihBody ihElse depth h
    obtain ⟨htest, hbody, helse⟩ := (nesting_ifElse_le (n := roomFor depth)).1 h
    rw [weave_ifElse]
    refine (nesting_ifElse_le (n := roomFor depth)).trans ?_
    rw [forall_weave_le_iff ihBody hbody, forall_weave_le_iff ihElse helse]
    simp only [htest, true_and]
    cases depth with
    | zero => simp [HookedAt]
    | succ depth => simp [HookedAt, blocks, inner, or_imp, forall_and]
  case forLoop =>
    intro address target iter body ih depth h
    obtain ⟨htarget, hiter, hbody⟩ := (nesting_forLoop_le (n := roomFor depth)).1 h
    rw [weave_forLoop]
    refine (nesting_forLoop_le (n := roomFor depth)).trans ?_
    rw [forall_weave_le_iff ih hbody]
    simp only [htarget, hiter, true_and]
    cases depth with
    | zero => simp [HookedAt]
    | succ depth => simp [HookedAt, blocks, inner]
  case whileLoop =>
    intro address test body ih depth h
    obtain ⟨htest, hbody⟩ := (nesting_whileLoop_le (n := roomFor depth)).1 h
    rw [weave_whileLoop]
    refine (nesting_whileLoop_le (n := roomFor depth)).trans ?_
    rw [forall_weave_le_iff ih hbody]
    simp only [htest, true_and]
    cases depth with
    | zero => simp [HookedAt]
    | succ depth => simp [HookedAt, blocks, inner]
  case simple =>
    intro address s hs depth h
    rw [weave_of_isSimple hs]
    refine iff_of_true h fun hooked => ?_
    simp [hooked.isSimple_eq_false] at hs

end Stmt

/-! ## Constants

A weaving puts in no constant but the search paths. -/

namespace ClassDef

variable {P : Constant → Prop}

theorem everyConstant_unbind {c : Class} (h : ∀ s ∈ c.body, s.EveryConstant P) (name : String) :
    ∀ s ∈ (c.unbind name).body, s.EveryConstant P := by
  intro s hs
  obtain ⟨t, ht, eq⟩ := List.mem_filterMap.1 hs
  have ok := h t ht
  cases t with
  | assign targets value =>
    simp only [Stmt.unbind?] at eq
    split at eq
    · cases eq
    · cases eq
      obtain ⟨htargets, hvalue⟩ := Stmt.everyConstant_assign.1 ok
      exact Stmt.everyConstant_assign.2
        ⟨fun e he => htargets e (List.mem_filter.1 he).1, hvalue⟩
  | _ => cases eq; exact ok

theorem everyConstant_setHook {c : Class} (hook : Reference)
    (h : (Stmt.classDef c).EveryConstant P) : (Stmt.classDef (c.setHook hook)).EveryConstant P := by
  obtain ⟨decorators, bases, keywords, body⟩ := Stmt.everyConstant_classDef.1 h
  have bare := everyConstant_unbind body "__metaclass__"
  refine Stmt.everyConstant_classDef.2 ⟨decorators, bases,
    Keyword.forall_mem_set (Expr.everyConstant_woven _) keywords, fun s hs => ?_⟩
  simp only [setHook, fillBody] at hs
  split at hs
  · cases List.mem_singleton.1 hs
    exact Stmt.everyConstant_pass
  · exact bare s hs

theorem everyConstant_setAccessor {c : Class} (attr : String)
    (getter setter deleter : Option Reference) (h : (Stmt.classDef c).EveryConstant P) :
    (Stmt.classDef (c.setAccessor attr getter setter deleter)).EveryConstant P := by
  obtain ⟨decorators, bases, keywords, body⟩ := Stmt.everyConstant_classDef.1 h
  have keyword : ∀ {arg : String} {accessor : Option Reference} {k : Keyword Expr},
      accessorKeyword arg accessor = some k → k.value.EveryConstant P := by
    intro arg accessor k hk
    obtain ⟨r, -, rfl⟩ := Option.map_eq_some_iff.1 hk
    exact Expr.everyConstant_woven _
  refine Stmt.everyConstant_classDef.2 ⟨decorators, bases, keywords, fun s hs => ?_⟩
  rcases List.mem_append.1 hs with hs | hs
  · exact everyConstant_unbind body attr s hs
  · cases List.mem_singleton.1 hs
    refine Stmt.everyConstant_assign.2 ⟨by simp, Expr.everyConstant_call.2 ⟨by simp, by simp, ?_⟩⟩
    intro k hk
    simp only [List.mem_filterMap, id, exists_eq_right, List.mem_cons, List.not_mem_nil,
      or_false] at hk
    rcases hk with hk | hk | hk <;> exact keyword hk.symm

theorem everyConstant_weave {c : Class} (w : Worklist) (address : Address)
    (h : (Stmt.classDef c).EveryConstant P) :
    (Stmt.classDef (c.weave w address).node).EveryConstant P := by
  let Q (c : Class) : Prop := (Stmt.classDef c).EveryConstant P
  refine weave_keeps (P := fun t => Q t.node) h (fun t p r _ ht => ?_)
    fun t p g s d attr _ ht => ?_
  · exact Tried.node_attempt (P := Q) ht fun _ => everyConstant_setHook r
  · exact Tried.node_attempt (P := Q) ht fun _ => everyConstant_setAccessor attr g s d

end ClassDef

namespace Stmt

variable {P : Constant → Prop}

theorem everyConstant_weave (w : Worklist) : ∀ (address : Address) (s : Stmt),
    s.EveryConstant P → (s.weave w address).node.EveryConstant P := by
  refine walk_induct w ?function ?cls ?ifElse ?forLoop ?whileLoop ?simple
  case function =>
    intro address f ih h
    obtain ⟨decorators, params, body⟩ := everyConstant_functionDef.1 h
    rw [weave_functionDef, FunctionDef.weave_eq]
    refine everyConstant_functionDef.2 ⟨fun d hd => ?_, params,
      List.forall_mem_map.2 fun s hs => ih s hs (body s hs)⟩
    rcases List.mem_append.1 hd with hd | hd
    · obtain ⟨r, -, rfl⟩ := List.mem_map.1 hd
      exact Expr.everyConstant_woven _
    · exact decorators d hd
  case cls =>
    intro address c ih h
    obtain ⟨decorators, bases, keywords, body⟩ :=
      everyConstant_classDef.1 (ClassDef.everyConstant_weave w (address.child c.name) h)
    rw [weave_classDef]
    exact everyConstant_classDef.2 ⟨decorators, bases, keywords,
      List.forall_mem_map.2 fun s hs => ih s hs (body s hs)⟩
  case ifElse =>
    intro address test body orelse ihBody ihElse h
    obtain ⟨htest, hbody, helse⟩ := everyConstant_ifElse.1 h
    rw [weave_ifElse]
    exact everyConstant_ifElse.2 ⟨htest,
      List.forall_mem_map.2 fun s hs => ihBody s hs (hbody s hs),
      List.forall_mem_map.2 fun s hs => ihElse s hs (helse s hs)⟩
  case forLoop =>
    intro address target iter body ih h
    obtain ⟨htarget, hiter, hbody⟩ := everyConstant_forLoop.1 h
    rw [weave_forLoop]
    exact everyConstant_forLoop.2 ⟨htarget, hiter,
      List.forall_mem_map.2 fun s hs => ih s hs (hbody s hs)⟩
  case whileLoop =>
    intro address test body ih h
    obtain ⟨htest, hbody⟩ := everyConstant_whileLoop.1 h
    rw [weave_whileLoop]
    exact everyConstant_whileLoop.2 ⟨htest,
      List.forall_mem_map.2 fun s hs => ih s hs (hbody s hs)⟩
  case simple =>
    intro address s hs h
    rwa [weave_of_isSimple hs]

theorem everyConstant_rebind {w : Worklist} {s : Stmt} (h : s.EveryConstant P) :
    (s.rebind w).EveryConstant P := by
  intro c hc
  rw [subterms_rebind] at hc
  obtain ⟨e, he, eq⟩ := List.mem_map.1 hc
  cases e with
  | constant d =>
    cases eq
    exact h _ he
  | _ => simp [Expr.rebind] at eq

theorem everyConstant_header (paths : List FilePath) (modules : List (String × String))
    (texts : ∀ s, P (.str s)) : ∀ s ∈ header paths modules, s.EveryConstant P := by
  intro s hs
  rcases List.mem_append.1 hs with hs | hs
  · simp only [searchPathHeader] at hs
    split at hs
    · cases hs
    · simp only [List.mem_cons, List.not_mem_nil, or_false] at hs
      rcases hs with rfl | rfl
      · simp
      · simp [searchPathLoop, searchPathList, Expr.str, texts]
  · obtain ⟨m, -, rfl⟩ := List.mem_map.1 hs
    simp [importAs]

end Stmt

/-! ## Binding modules

New aliases change no nesting, and a header is shallow. -/

namespace Expr

open Document (itemsNesting fieldsNesting)

mutual
theorem nesting_rebind (w : Worklist) : ∀ e : Expr,
    (e.rebind w).toDocument.nesting = e.toDocument.nesting
  | .name _ | .constant _ => rfl
  | .attribute value _ => by
    simp [rebind, toDocument, Document.record, Document.nesting, fieldsNesting,
      nesting_rebind w value]
  | .call func args keywords => by
    simp [rebind, toDocument, Document.record, Document.nesting, fieldsNesting,
      nesting_rebind w func, itemsNesting_rebindAll w args, itemsNesting_rebindKeywords w keywords]
  | .tuple items => by
    simp [rebind, toDocument, Document.nesting, itemsNesting_rebindAll w items]
  | .list items => by
    simp [rebind, toDocument, Document.nesting, itemsNesting_rebindAll w items]
  | .compare left _ right => by
    simp [rebind, toDocument, Document.record, Document.nesting, fieldsNesting,
      nesting_rebind w left, nesting_rebind w right]
  | .binOp left _ right => by
    simp [rebind, toDocument, Document.record, Document.nesting, fieldsNesting,
      nesting_rebind w left, nesting_rebind w right]
  | .woven r => by simp [rebind, toDocument, Woven.nesting_toDocument]

theorem itemsNesting_rebindAll (w : Worklist) : ∀ es : List Expr,
    itemsNesting (toDocuments (rebindAll w es)) = itemsNesting (toDocuments es)
  | [] => rfl
  | e :: es => by
    simp [rebindAll, toDocuments, itemsNesting, nesting_rebind w e, itemsNesting_rebindAll w es]

theorem itemsNesting_rebindKeywords (w : Worklist) : ∀ ks : List (Keyword Expr),
    itemsNesting (keywordDocuments (rebindKeywords w ks)) = itemsNesting (keywordDocuments ks)
  | [] => rfl
  | ⟨_, value⟩ :: ks => by
    simp [rebindKeywords, keywordDocuments, itemsNesting, Document.record, Document.nesting,
      fieldsNesting, nesting_rebind w value, itemsNesting_rebindKeywords w ks]
end

theorem nesting_optional_rebind (w : Worklist) (v : Option Expr) :
    (optionalExpr (v.map (rebind w))).nesting = (optionalExpr v).nesting := by
  cases v with
  | none => rfl
  | some e => exact nesting_rebind w e

end Expr

namespace Stmt

open Document (itemsNesting fieldsNesting)
open Loom.Expr (itemsNesting_rebindAll itemsNesting_rebindKeywords nesting_optional_rebind)

theorem itemsNesting_rebindParams (w : Worklist) (params : List Param) :
    itemsNesting ((params.map (·.rebind w)).map Param.toDocument) =
      itemsNesting (params.map Param.toDocument) := by
  induction params with
  | nil => rfl
  | cons p params ih =>
    simp only [List.map_cons, itemsNesting, ih]
    simp [Param.rebind, Param.toDocument, Document.record, Document.nesting, fieldsNesting,
      nesting_optional_rebind]

mutual
theorem nesting_rebind (w : Worklist) : ∀ s : Stmt,
    (s.rebind w).toDocument.nesting = s.toDocument.nesting
  | .functionDef ⟨_, params, decorators, body⟩ => by
    simp only [rebind, toDocument, nesting_tagged, Document.record, Document.nesting,
      List.map_cons, List.map_nil, fieldsNesting, itemsNesting_rebindParams,
      itemsNesting_rebindAll, itemsNesting_rebindBlock w body]
  | .classDef ⟨_, bases, keywords, decorators, body⟩ => by
    simp only [rebind, toDocument, nesting_tagged, Document.record, Document.nesting,
      List.map_cons, List.map_nil, fieldsNesting, itemsNesting_rebindKeywords,
      itemsNesting_rebindAll, itemsNesting_rebindBlock w body]
  | .assign targets value => by
    simp only [rebind, toDocument, nesting_tagged, Document.record, Document.nesting,
      List.map_cons, List.map_nil, fieldsNesting, itemsNesting_rebindAll, value.nesting_rebind w]
  | .expr e => by simp only [rebind, toDocument, nesting_tagged, e.nesting_rebind w]
  | .ret value => by simp only [rebind, toDocument, nesting_tagged, nesting_optional_rebind]
  | .delete targets => by
    simp only [rebind, toDocument, nesting_tagged, Document.nesting, itemsNesting_rebindAll]
  | .pass | .importNames _ | .importFrom .. | .global _ => rfl
  | .ifElse test body orelse => by
    simp only [rebind, toDocument, nesting_tagged, Document.record, Document.nesting,
      List.map_cons, List.map_nil, fieldsNesting, test.nesting_rebind w,
      itemsNesting_rebindBlock w body, itemsNesting_rebindBlock w orelse]
  | .forLoop target iter body => by
    simp only [rebind, toDocument, nesting_tagged, Document.record, Document.nesting,
      List.map_cons, List.map_nil, fieldsNesting, target.nesting_rebind w, iter.nesting_rebind w,
      itemsNesting_rebindBlock w body]
  | .whileLoop test body => by
    simp only [rebind, toDocument, nesting_tagged, Document.record, Document.nesting,
      List.map_cons, List.map_nil, fieldsNesting, test.nesting_rebind w,
      itemsNesting_rebindBlock w body]

theorem itemsNesting_rebindBlock (w : Worklist) : ∀ body : List Stmt,
    itemsNesting (toDocuments (rebindBlock w body)) = itemsNesting (toDocuments body)
  | [] => rfl
  | s :: rest => by
    simp only [rebindBlock, toDocuments, itemsNesting, nesting_rebind w s,
      itemsNesting_rebindBlock w rest]
end

theorem nesting_header (paths : List FilePath) (modules : List (String × String)) :
    ∀ s ∈ header paths modules, s.nesting ≤ 14 := by
  have imports : ∀ a : Alias, (importNames [a]).nesting ≤ 14 := by
    intro a
    simp [nesting, toDocument, Alias.toDocument, Document.record, Document.nesting,
      Document.itemsNesting, fieldsNesting]
  intro s hs
  rcases List.mem_append.1 hs with hs | hs
  · simp only [searchPathHeader] at hs
    split at hs
    · cases hs
    · simp only [List.mem_cons, List.not_mem_nil, or_false] at hs
      rcases hs with rfl | rfl
      · exact imports _
      · have test : ∀ s ∈ [ifElse (.compare (.name "path") .notIn searchPathList)
            [.expr (.call (.attribute searchPathList "append") [.name "path"] [])] []],
            s.nesting ≤ 11 := by
          rw [List.forall_mem_singleton]
          decide
        refine (nesting_forLoop_le (n := 11)).2 ⟨by decide, ?_, test⟩
        have strings : (Expr.tuple (paths.map fun p => .str p.text)).nesting ≤ 4 := by
          rw [Expr.nesting, Expr.toDocument, nesting_tagged, Nat.succ_le_succ_iff,
            nesting_array_le, Expr.toDocuments_eq_map]
          intro d hd
          simp only [List.map_map, List.mem_map, Function.comp] at hd
          obtain ⟨p, -, rfl⟩ := hd
          exact Nat.le_refl 2
        omega
  · obtain ⟨m, -, rfl⟩ := List.mem_map.1 hs
    exact imports _

end Stmt

end Loom
