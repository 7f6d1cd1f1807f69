import Mathlib.Data.List.Forall2

/-!
# Steps that may fail

What comes out of one step after the other, and of a step for each element of a list: all results,
or the first error.
-/

namespace Loom.Except

variable {ε α β : Type}

theorem bind_eq_ok {a : Except ε α} {f : α → Except ε β} {b : β} :
    a.bind f = .ok b ↔ ∃ v, a = .ok v ∧ f v = .ok b := by
  cases a <;> simp [Except.bind]

theorem toOption_eq_some {a : Except ε α} {v : α} : a.toOption = some v ↔ a = .ok v := by
  cases a <;> simp [Except.toOption]

theorem exists_of_isOk {a : Except ε α} (h : a.isOk = true) : ∃ v, a = .ok v := by
  cases a with
  | ok v => exact ⟨v, rfl⟩
  | error e => cases h

/-! ## Lists -/

section

variable {f : α → Except ε β} {xs : List α} {ys : List β} {e : ε}

theorem mapM_cons (f : α → Except ε β) (x : α) (xs : List α) :
    (x :: xs).mapM f = (f x).bind fun y => (xs.mapM f).map (y :: ·) := by
  rw [List.mapM_cons]
  cases f x with
  | error e => rfl
  | ok y => cases xs.mapM f <;> rfl

theorem mapM_append (f : α → Except ε β) (xs xs' : List α) :
    (xs ++ xs').mapM f = (xs.mapM f).bind fun ys => (xs'.mapM f).map (ys ++ ·) := by
  rw [List.mapM_append]
  cases xs.mapM f with
  | error e => rfl
  | ok ys => cases xs'.mapM f <;> rfl

theorem mapM_congr {g : α → Except ε β} (h : ∀ x ∈ xs, f x = g x) : xs.mapM f = xs.mapM g := by
  induction xs with
  | nil => rfl
  | cons x xs ih =>
    rw [mapM_cons, mapM_cons, h x List.mem_cons_self,
      ih fun y hy => h y (List.mem_cons_of_mem _ hy)]

theorem mapM_eq_ok : xs.mapM f = .ok ys ↔ List.Forall₂ (fun x y => f x = .ok y) xs ys := by
  induction xs generalizing ys with
  | nil => simp [pure, Except.pure, eq_comm]
  | cons x xs ih =>
    rw [mapM_cons, List.forall₂_cons_left_iff]
    simp only [← ih]
    cases f x with
    | error e => simp [Except.bind]
    | ok y => cases xs.mapM f <;> simp [Except.bind, Except.map, eq_comm]

/-- The error for a list is that of the first element with one. -/
theorem mapM_eq_error : xs.mapM f = .error e ↔
    ∃ before x after, xs = before ++ x :: after ∧ (∀ y ∈ before, ∃ b, f y = .ok b) ∧
      f x = .error e := by
  induction xs with
  | nil => simp [pure, Except.pure]
  | cons x xs ih =>
    rw [mapM_cons]
    cases first : f x with
    | error e' =>
      simp only [Except.bind, Except.error.injEq]
      constructor
      · rintro rfl
        exact ⟨[], x, xs, rfl, by simp, first⟩
      · rintro ⟨before, z, after, eq, fine, failed⟩
        cases before with
        | nil =>
          obtain ⟨rfl, -⟩ := List.cons.inj eq
          exact Except.error.inj (first.symm.trans failed)
        | cons y before =>
          obtain ⟨rfl, -⟩ := List.cons.inj eq
          obtain ⟨b, ok⟩ := fine x List.mem_cons_self
          simp [first] at ok
    | ok y =>
      have others : (xs.mapM f).map (y :: ·) = .error e ↔ xs.mapM f = .error e := by
        cases xs.mapM f <;> simp [Except.map]
      simp only [Except.bind, others, ih]
      constructor
      · rintro ⟨before, z, after, rfl, fine, failed⟩
        exact ⟨x :: before, z, after, rfl, List.forall_mem_cons.2 ⟨⟨y, first⟩, fine⟩, failed⟩
      · rintro ⟨before, z, after, eq, fine, failed⟩
        cases before with
        | nil =>
          obtain ⟨rfl, -⟩ := List.cons.inj eq
          simp [first] at failed
        | cons w before =>
          obtain ⟨rfl, rfl⟩ := List.cons.inj eq
          exact ⟨before, z, after, rfl, fun w hw => fine w (List.mem_cons_of_mem _ hw), failed⟩

theorem exists_of_mapM_eq_ok {x : α} (h : xs.mapM f = .ok ys) (mem : x ∈ xs) :
    ∃ y ∈ ys, f x = .ok y := by
  induction mapM_eq_ok.1 h with
  | nil => cases mem
  | cons first others ih =>
    obtain rfl | mem := List.mem_cons.1 mem
    · exact ⟨_, List.mem_cons_self, first⟩
    · obtain ⟨y, hy, eq⟩ := ih (mapM_eq_ok.2 others) mem
      exact ⟨y, List.mem_cons_of_mem _ hy, eq⟩

/-- Repeated elements give results that are there already. -/
theorem mapM_of_subset {again : List α} (h : xs.mapM f = .ok ys) (sub : again ⊆ xs) :
    ∃ zs, again.mapM f = .ok zs ∧ zs ⊆ ys := by
  induction again with
  | nil => exact ⟨[], rfl, List.nil_subset _⟩
  | cons x again ih =>
    obtain ⟨mem, sub⟩ := List.cons_subset.1 sub
    obtain ⟨zs, rest, within⟩ := ih sub
    obtain ⟨y, hy, first⟩ := exists_of_mapM_eq_ok h mem
    refine ⟨y :: zs, ?_, List.cons_subset.2 ⟨hy, within⟩⟩
    rw [mapM_cons, first, rest]
    rfl

/-- Repeated elements may be left out where repeated results do not matter. -/
theorem mapM_bind_of_subset {γ : Type} {g : List β → Except ε γ} {again : List α}
    (hg : ∀ {ys zs} rest, zs ⊆ ys → g (ys ++ (zs ++ rest)) = g (ys ++ rest)) (sub : again ⊆ xs)
    (rest : List α) : ((xs ++ (again ++ rest)).mapM f).bind g = ((xs ++ rest).mapM f).bind g := by
  simp only [mapM_append]
  cases first : xs.mapM f with
  | error e => rfl
  | ok ys =>
    obtain ⟨zs, repeated, within⟩ := mapM_of_subset first sub
    rw [repeated]
    cases rest.mapM f with
    | error e => rfl
    | ok others => exact hg others within

end

/-! ## Results that agree -/

/-- Both steps fail with one error, or both succeed with related values. -/
inductive Agree (R : α → β → Prop) : Except ε α → Except ε β → Prop
  | ok {a : α} {b : β} : R a b → Agree R (.ok a) (.ok b)
  | error (e : ε) : Agree R (.error e) (.error e)

theorem Agree.bind {γ δ : Type} {R : α → β → Prop} {S : γ → δ → Prop} {x : Except ε α}
    {y : Except ε β} {f : α → Except ε γ} {g : β → Except ε δ} (h : Agree R x y)
    (next : ∀ a b, R a b → Agree S (f a) (g b)) : Agree S (x >>= f) (y >>= g) := by
  cases h with
  | ok related => exact next _ _ related
  | error e => exact .error e

theorem Agree.refl {R : α → α → Prop} (same : ∀ a, R a a) (x : Except ε α) : Agree R x x := by
  cases x with
  | ok a => exact .ok (same a)
  | error e => exact .error e

end Loom.Except
