import Mathlib.Data.List.Forall2
import Loom.Tree.Names

/-!
# Lists without repeats

Elements are the same when their identities agree. Adding elements one after the other to a list of
known ones leaves the known ones in place and appends what is new (`newOnes`): the first of those
that are the same, and none that is known.
-/

namespace Loom

variable {α β : Type} {same : α → α → Bool} {identity : α → β}

/-- Two elements are the same exactly if their identities agree. -/
def Identifies (identity : α → β) (same : α → α → Bool) : Prop :=
  ∀ x y, same x y = true ↔ identity x = identity y

/-- Adds `x` at the end unless it is there. -/
def addNew (same : α → α → Bool) (known : List α) (x : α) : List α :=
  if known.any (same · x) then known else known ++ [x]

/-- The first of each identity that none of `known` has. -/
def newOnes (same : α → α → Bool) (known xs : List α) : List α :=
  (xs.filter fun x => !known.any (same · x)).eraseDupsBy same

@[simp] theorem newOnes_nil (known : List α) : newOnes same known [] = [] := rfl

theorem newOnes_of_none_known (xs : List α) : newOnes same [] xs = xs.eraseDupsBy same := by
  have all : (xs.filter fun x => !([] : List α).any (same · x)) = xs :=
    List.filter_eq_self.2 fun _ _ => rfl
  rw [newOnes, all]

section

variable (same_iff : Identifies identity same)
include same_iff

theorem same_comm (x y : α) : same x y = same y x := by
  rw [Bool.eq_iff_iff, same_iff x y, same_iff y x, eq_comm]

theorem newOnes_cons (known : List α) (x : α) (xs : List α) :
    newOnes same known (x :: xs) =
      if known.any (same · x) then newOnes same known xs
      else x :: newOnes same (known ++ [x]) xs := by
  cases hx : known.any (same · x) with
  | true => simp [newOnes, hx]
  | false =>
    -- What is the same as `x` is dropped now or, with `x` among the known ones, at once.
    simp only [newOnes, List.filter_cons, hx, Bool.not_false, ↓reduceIte, List.eraseDupsBy_cons,
      List.filter_filter, Bool.false_eq_true]
    congr 2
    refine List.filter_congr fun y _ => ?_
    simp [same_comm same_iff y x, Bool.and_comm]

theorem foldl_addNew (known xs : List α) :
    xs.foldl (addNew same) known = known ++ newOnes same known xs := by
  induction xs generalizing known with
  | nil => simp
  | cons x xs ih =>
    rw [List.foldl_cons, ih, newOnes_cons same_iff, addNew]
    split <;> simp

theorem newOnes_append (known xs ys : List α) :
    newOnes same known (xs ++ ys) =
      newOnes same known xs ++ newOnes same (known ++ newOnes same known xs) ys := by
  have added : known ++ newOnes same known (xs ++ ys) =
      known ++ (newOnes same known xs ++ newOnes same (known ++ newOnes same known xs) ys) := by
    rw [← foldl_addNew same_iff, List.foldl_append, foldl_addNew same_iff, foldl_addNew same_iff,
      List.append_assoc]
  exact List.append_cancel_left added

theorem any_same_of_same {known : List α} {x y : α} (h : known.any (same · x) = true)
    (eq : same x y = true) : known.any (same · y) = true := by
  obtain ⟨k, hk, before⟩ := List.any_eq_true.1 h
  refine List.any_eq_true.2 ⟨k, hk, ?_⟩
  rw [same_iff _ _] at before eq ⊢
  exact before.trans eq

/-- An identity is known or new, whichever element has it. -/
theorem any_same_append_newOnes (known xs : List α) (y : α) :
    (known ++ newOnes same known xs).any (same · y) = (known ++ xs).any (same · y) := by
  induction xs generalizing known with
  | nil => simp
  | cons x xs ih =>
    rw [newOnes_cons same_iff]
    split
    · next hx =>
      rw [ih, Bool.eq_iff_iff]
      simp only [List.any_append, List.any_cons, Bool.or_eq_true]
      constructor
      · exact fun h => h.imp_right .inr
      · rintro (h | eq | h)
        · exact .inl h
        · exact .inl (any_same_of_same same_iff hx eq)
        · exact .inr h
    · simpa using ih (known ++ [x])

theorem mem_newOnes {known xs : List α} {x : α} (h : x ∈ newOnes same known xs) :
    x ∈ xs ∧ known.any (same · x) = false := by
  induction xs generalizing known with
  | nil => cases h
  | cons y xs ih =>
    rw [newOnes_cons same_iff] at h
    split at h
    · exact ⟨List.mem_cons_of_mem _ (ih h).1, (ih h).2⟩
    · next hy =>
      obtain rfl | h := List.mem_cons.1 h
      · exact ⟨List.mem_cons_self, by simpa using hy⟩
      · obtain ⟨mem, unknown⟩ := ih h
        rw [List.any_append, Bool.or_eq_false_iff] at unknown
        exact ⟨List.mem_cons_of_mem _ mem, unknown.1⟩

theorem newOnes_pairwise (known xs : List α) :
    (newOnes same known xs).Pairwise fun x y => same x y = false := by
  induction xs generalizing known with
  | nil => exact .nil
  | cons x xs ih =>
    rw [newOnes_cons same_iff]
    split
    · exact ih known
    · refine .cons (fun y hy => ?_) (ih _)
      have unknown := (mem_newOnes same_iff hy).2
      rw [List.any_append, Bool.or_eq_false_iff] at unknown
      simpa using unknown.2

/-- What is known anyway, or repeated, may be dropped beforehand. -/
theorem newOnes_newOnes {fewer known : List α} (xs : List α)
    (h : ∀ y, fewer.any (same · y) = true → known.any (same · y) = true) :
    newOnes same known (newOnes same fewer xs) = newOnes same known xs := by
  induction xs generalizing fewer known with
  | nil => rfl
  | cons x xs ih =>
    rw [newOnes_cons same_iff fewer, newOnes_cons same_iff known]
    split
    · next hx => rw [if_pos (h x hx), ih h]
    · rw [newOnes_cons same_iff]
      split
      · next hx =>
        refine ih fun y hy => ?_
        simp only [List.any_append, List.any_cons, List.any_nil, Bool.or_false,
          Bool.or_eq_true] at hy
        exact hy.elim (h y) fun eq => any_same_of_same same_iff hx eq
      · rw [ih fun y hy => ?_]
        simp only [List.any_append, Bool.or_eq_true] at hy ⊢
        exact hy.imp_left (h y)

/-- Lists whose elements have the same identities one by one leave such lists. -/
theorem forall₂_newOnes {R : α → α → Prop} (identical : ∀ x y, R x y → identity x = identity y)
    {known known' xs xs' : List α} (hk : List.Forall₂ R known known')
    (hx : List.Forall₂ R xs xs') :
    List.Forall₂ R (newOnes same known xs) (newOnes same known' xs') := by
  induction hx generalizing known known' with
  | nil => exact .nil
  | @cons x x' xs xs' related _ ih =>
    have both : known.any (same · x) = known'.any (same · x') := by
      induction hk with
      | nil => rfl
      | @cons k k' _ _ first _ more =>
        have eq : same k x = same k' x' := by
          rw [Bool.eq_iff_iff, same_iff, same_iff, identical _ _ first, identical _ _ related]
        rw [List.any_cons, List.any_cons, eq, more]
    rw [newOnes_cons same_iff, newOnes_cons same_iff, both]
    split
    · exact ih hk
    · exact .cons related (ih (List.rel_append hk (.cons related .nil)))

/-- A map that keeps the identities keeps what is the first of its identity. -/
theorem eraseDupsBy_map {h : α → α} (kept : ∀ x, identity (h x) = identity x) (xs : List α) :
    (xs.map h).eraseDupsBy same = (xs.eraseDupsBy same).map h := by
  have images : List.Forall₂ (fun x y => h x = y) (newOnes same [] xs)
      (newOnes same [] (xs.map h)) :=
    forall₂_newOnes same_iff (by rintro x _ rfl; exact (kept x).symm) .nil
      (List.forall₂_map_right_iff.2 (List.forall₂_same.2 fun _ _ => rfl))
  rw [← List.forall₂_map_left_iff (R := Eq), List.forall₂_eq_eq_eq] at images
  rw [← newOnes_of_none_known, ← images, newOnes_of_none_known]

/-- Without repeats all stay. -/
theorem eraseDupsBy_of_pairwise {xs : List α} (h : xs.Pairwise fun x y => same x y = false) :
    xs.eraseDupsBy same = xs := by
  induction xs with
  | nil => rfl
  | cons x xs ih =>
    obtain ⟨first, others⟩ := List.pairwise_cons.1 h
    have kept : (xs.filter fun y => decide (same y x = false)) = xs := by
      refine List.filter_eq_self.2 fun y hy => ?_
      simp [same_comm same_iff y x, first y hy]
    rw [List.eraseDupsBy_cons, kept, ih others]

end

end Loom
