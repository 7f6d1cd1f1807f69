import Mathlib.Data.List.Forall2
import Loom.Proofs.Path.AbsoluteForm
import Loom.Proofs.Path.Parents
import Loom.Proofs.Search.Registry

/-!
# Spellings

Two spellings of a path have the same components. What is read off a path (its parents, its file
name, whether it is absolute, what it joins to) is the same up to spelling for both, and so is what
is kept of a list of paths when repeats are left out.
-/

namespace Loom

namespace FilePath

/-- Two spellings of one path. -/
def Respells (p q : FilePath) : Prop := p.same q = true

variable {p q r : FilePath} {name : String}

theorem respells_iff : p.Respells q ↔ p.components = q.components := same_iff

@[refl] theorem Respells.refl (p : FilePath) : p.Respells p := respells_iff.2 rfl

@[symm] theorem Respells.symm (h : p.Respells q) : q.Respells p :=
  respells_iff.2 (respells_iff.1 h).symm

@[trans] theorem Respells.trans (h : p.Respells q) (h' : q.Respells r) : p.Respells r :=
  respells_iff.2 ((respells_iff.1 h).trans (respells_iff.1 h'))

/-! ## Parts -/

/-- Only the first component may be other than a step. -/
theorem exists_components_eq_cons (some_text : p.text ≠ "") :
    ∃ c cs, p.components = c :: cs ∧ ∀ d ∈ cs, isStep d = true := by
  cases absolute : p.isAbsolute with
  | true =>
    exact ⟨_, _, components_of_isAbsolute absolute, fun d hd => (List.mem_filter.1 hd).2⟩
  | false =>
    cases chars : p.text.toList with
    | nil => exact absurd (String.toList_eq_nil_iff.1 chars) some_text
    | cons c cs =>
      -- The first stretch has a character, so it is a component.
      have no_slash : c ≠ '/' := by simpa [isAbsolute, chars] using absolute
      cases pieces : Text.splitChars '/' cs with
      | nil => exact absurd pieces (Text.splitChars_ne_nil '/' cs)
      | cons first rest =>
        have split : Text.splitChars '/' p.text.toList = (c :: first) :: rest := by
          rw [chars, Text.splitChars, if_neg no_slash, pieces]
        obtain ⟨d, component⟩ : ∃ d, componentOf 0 (c :: first) = some d := by
          unfold componentOf
          split_ifs <;> simp_all
        have eq : p.components =
            d :: (locate ((c :: first).length + 1) rest).map (·.component) := by
          rw [components, located, if_neg (by simp [absolute]), split, locate, component]
          simp
        exact ⟨d, _, eq, fun _ => isStep_of_mem_locate⟩

theorem components_eq_nil_iff : p.components = [] ↔ p.text = "" := by
  constructor
  · intro none
    by_contra some_text
    obtain ⟨c, cs, eq, -⟩ := exists_components_eq_cons some_text
    simp [none] at eq
  · intro empty
    obtain ⟨text⟩ := p
    subst empty
    decide

theorem isAbsolute_iff : p.isAbsolute = true ↔ .root ∈ p.components := by
  refine ⟨fun absolute => ?_, isAbsolute_of_components⟩
  rw [components_of_isAbsolute absolute]
  exact List.mem_cons_self

theorem fileName?_eq : p.fileName? =
    match p.components.getLast? with
    | some (.normal name) => some name
    | _ => none := by
  rw [fileName?, fileNameAt?, components, List.getLast?_map]
  cases p.located.getLast? with
  | none => rfl
  | some l =>
    obtain ⟨c, stop⟩ := l
    cases c <;> rfl

/-- A path has a parent if its last component is no root. -/
theorem isSome_parent?_iff : p.parent?.isSome = true ↔
    ∃ cs c, p.components = cs ++ [c] ∧ c ≠ .root := by
  constructor
  · intro some
    rw [parent?] at some
    cases eq : p.located.reverse with
    | nil => simp [eq] at some
    | cons l before =>
      refine ⟨before.reverse.map (·.component), l.component, ?_, ?_⟩
      · rw [components, ← List.reverse_reverse p.located, eq]
        simp
      · rintro root
        obtain ⟨c, stop⟩ := l
        obtain rfl : c = .root := root
        simp [eq] at some
  · rintro ⟨cs, c, eq, no_root⟩
    obtain ⟨q, parent, -⟩ := exists_parent? eq no_root
    simp [parent]

/-! ## Components of joined paths -/

theorem components_locate (n : Nat) (pieces : List (List Char)) (some_start : n ≠ 0) :
    (locate n pieces).map (·.component) = (locate 1 pieces).map (·.component) := by
  induction pieces generalizing n with
  | nil => rfl
  | cons piece pieces ih =>
    have start : componentOf n piece = componentOf 1 piece := by
      simp [componentOf, some_start]
    rw [locate, locate, start]
    cases componentOf 1 piece with
    | none => simp only [ih (n + piece.length + 1) (by omega), ih (1 + piece.length + 1) (by omega)]
    | some c =>
      simp only [List.map_cons, ih (n + piece.length + 1) (by omega),
        ih (1 + piece.length + 1) (by omega)]

theorem opened_eq_nil_iff : p.opened = [] ↔ p.text = "" := by
  rw [opened, ← String.toList_eq_nil_iff]
  cases last : p.text.toList.getLast? with
  | none => simpa using last
  | some c =>
    have some_text : p.text.toList ≠ [] := by
      intro none
      simp [none] at last
    simp only [some_text, iff_false]
    split <;> simp [some_text]

/-! ## Tidy spellings -/

/-- The path spelled from its components, with no more slashes than they need. -/
def tidy (p : FilePath) : FilePath := p.components.foldl (fun q c => q.join c.text) ⟨""⟩

theorem components_tidy (p : FilePath) : p.tidy.components = p.components := by
  by_cases empty : p.text = ""
  · rw [tidy, components_eq_nil_iff.2 empty]
    decide
  · obtain ⟨c, cs, eq, steps⟩ := exists_components_eq_cons empty
    have first : ((FilePath.mk "").join c.text).components = [c] := by
      cases c with
      | root | current | parent => decide
      | normal name =>
        have name : IsName name := isName_of_mem_components (p := p) (by simp [eq])
        have none : (FilePath.mk "").components = [] := by decide
        rw [Component.text, components_join_name name, none, List.nil_append]
    rw [tidy, eq, List.foldl_cons, components_foldl_join_steps (q := p), first]
    · rfl
    · exact fun d hd => ⟨steps d hd, by simp [eq, hd]⟩

theorem tidy_eq_iff : p.tidy = q.tidy ↔ p.Respells q := by
  rw [respells_iff]
  constructor
  · intro eq
    rw [← components_tidy p, eq, components_tidy]
  · intro eq
    rw [tidy, eq, tidy]

theorem tidy_respells (p : FilePath) : p.tidy.Respells p := respells_iff.2 (components_tidy p)

/-! ## Respelled paths -/

namespace Respells

variable (h : p.Respells q)
include h

theorem text_eq_empty_iff : p.text = "" ↔ q.text = "" := by
  rw [← components_eq_nil_iff, respells_iff.1 h, components_eq_nil_iff]

theorem fileName?_eq : p.fileName? = q.fileName? := by
  rw [FilePath.fileName?_eq, FilePath.fileName?_eq, respells_iff.1 h]

theorem fileStem?_eq : p.fileStem? = q.fileStem? := by
  rw [fileStem?, fileStem?, h.fileName?_eq]

theorem parent? : Option.Rel Respells p.parent? q.parent? := by
  have both : p.parent?.isSome = q.parent?.isSome := by
    rw [Bool.eq_iff_iff, isSome_parent?_iff, isSome_parent?_iff, respells_iff.1 h]
  cases hp : p.parent? with
  | none =>
    cases hq : q.parent? with
    | none => exact .none
    | some b => simp [hp, hq] at both
  | some a =>
    cases hq : q.parent? with
    | none => simp [hp, hq] at both
    | some b =>
      refine .some (respells_iff.2 ?_)
      rw [components_of_parent? hp, components_of_parent? hq, respells_iff.1 h]

theorem join (name : String) : (p.join name).Respells (q.join name) := by
  cases relative : (FilePath.mk name).isAbsolute with
  | true =>
    rw [FilePath.join, FilePath.join, if_pos relative, if_pos relative]
  | false =>
    rw [respells_iff, components, components, located_join relative, located_join relative,
      List.map_append, List.map_append]
    refine congrArg₂ _ (respells_iff.1 h) ?_
    by_cases none : p.text = ""
    · have both : q.text = "" := h.text_eq_empty_iff.1 none
      rw [opened_eq_nil_iff.2 none, opened_eq_nil_iff.2 both]
    · have both : q.text ≠ "" := mt h.text_eq_empty_iff.2 none
      rw [components_locate _ _ (mt List.length_eq_zero_iff.1 (mt opened_eq_nil_iff.1 none)),
        components_locate _ _ (mt List.length_eq_zero_iff.1 (mt opened_eq_nil_iff.1 both))]

end Respells

theorem Respells.ancestor? (h : p.Respells q) (n : Nat) :
    Option.Rel Respells (p.ancestor? n) (q.ancestor? n) := by
  induction n generalizing p q with
  | zero => exact .some h
  | succ n ih =>
    rw [FilePath.ancestor?, FilePath.ancestor?]
    have parents := h.parent?
    revert parents
    generalize p.parent? = a, q.parent? = b
    rintro (above | _)
    · exact ih above
    · exact .none

end FilePath

/-! ## Lists -/

open FilePath

theorem newPaths_respells {known known' paths paths' : List FilePath}
    (hk : List.Forall₂ Respells known known') (hp : List.Forall₂ Respells paths paths') :
    List.Forall₂ Respells (newPaths known paths) (newPaths known' paths') :=
  forall₂_newOnes identifies (fun _ _ => respells_iff.1) hk hp

end Loom
