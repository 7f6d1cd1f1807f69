import Loom.Proofs.Search.Trail

/-!
# Paths with one absolute form

An absolute path has the components of its absolute form, so two absolute paths that are the same as
seen from the working directory are the same as they are written.
-/

namespace Loom

namespace FilePath

variable {p : FilePath} {cwd : FilePath}

/-- After its start a path goes in steps only. -/
theorem isStep_of_mem_locate {n : Nat} {pieces : List (List Char)} {c : Component}
    (h : c ∈ (locate (n + 1) pieces).map (·.component)) : isStep c = true := by
  induction pieces generalizing n with
  | nil => simp [locate] at h
  | cons piece pieces ih =>
    rw [locate] at h
    split at h
    · exact ih h
    · next d eq =>
      obtain rfl | h := List.mem_cons.1 h
      · simp only [componentOf, Nat.add_one_ne_zero, if_false] at eq
        split_ifs at eq <;> cases eq <;> rfl
      · exact ih h

theorem components_of_isAbsolute (absolute : p.isAbsolute = true) :
    p.components = .root :: p.components.filter isStep := by
  obtain ⟨rest, slash⟩ : ∃ rest, p.text.toList = '/' :: rest := by
    cases h : p.text.toList with
    | nil => simp [isAbsolute, h] at absolute
    | cons c rest =>
      have first : c = '/' := by simpa [isAbsolute, h] using absolute
      exact ⟨rest, by rw [first]⟩
  have eq : p.components =
      .root :: (locate 1 (Text.splitChars '/' rest)).map (·.component) := by
    simp [components, located, absolute, slash, Text.splitChars, locate, componentOf]
  have steps : ((locate 1 (Text.splitChars '/' rest)).map (·.component)).filter isStep =
      (locate 1 (Text.splitChars '/' rest)).map (·.component) :=
    List.filter_eq_self.2 fun _ => isStep_of_mem_locate
  rw [eq, List.filter_cons, if_neg (by decide), steps]

theorem absoluteComponents_of_isAbsolute (absolute : p.isAbsolute = true) :
    p.absoluteComponents cwd = p.components := by
  rw [absoluteComponents, if_pos absolute, List.singleton_append,
    ← components_of_isAbsolute absolute]

end FilePath

namespace FileSystem

variable {fs : FileSystem} {p q : FilePath}

/-- The absolute forms of two paths are the same path. -/
def SameForm (fs : FileSystem) (p q : FilePath) : Prop :=
  ∃ a b, fs.absolute p = .ok a ∧ fs.absolute q = .ok b ∧ a.same b = true

theorem absolute_eq_ok {a : FilePath} :
    fs.absolute p = .ok a ↔ p.absolute? fs.workingDir = some a := by
  rw [absolute]
  split
  · next form => simp [form]
  · next form => simp [form]

theorem components_of_absolute {a : FilePath} (h : fs.absolute p = .ok a) :
    a.components = p.absoluteComponents fs.workingDir :=
  FilePath.components_of_absolute? (absolute_eq_ok.1 h)

theorem exists_absolute (fs : FileSystem) (some_text : p.text ≠ "") :
    ∃ a, fs.absolute p = .ok a := by
  obtain ⟨a, form⟩ : ∃ a, p.absolute? fs.workingDir = some a := FilePath.exists_absolute? some_text
  exact ⟨a, absolute_eq_ok.2 form⟩

theorem text_ne_empty_of_absolute {a : FilePath} (h : fs.absolute p = .ok a) : p.text ≠ "" := by
  intro empty
  simp [absolute, FilePath.absolute?, empty] at h

theorem sameForm_iff : fs.SameForm p q ↔ p.text ≠ "" ∧ q.text ≠ "" ∧
    p.absoluteComponents fs.workingDir = q.absoluteComponents fs.workingDir := by
  constructor
  · rintro ⟨a, b, ha, hb, same⟩
    refine ⟨text_ne_empty_of_absolute ha, text_ne_empty_of_absolute hb, ?_⟩
    rw [← components_of_absolute ha, ← components_of_absolute hb, FilePath.same_iff.1 same]
  · rintro ⟨p_text, q_text, eq⟩
    obtain ⟨a, ha⟩ := exists_absolute fs p_text
    obtain ⟨b, hb⟩ := exists_absolute fs q_text
    refine ⟨a, b, ha, hb, FilePath.same_iff.2 ?_⟩
    rw [components_of_absolute ha, components_of_absolute hb, eq]

/-- Absolute paths of one form are the same path as written. -/
theorem SameForm.same (h : fs.SameForm p q) (p_absolute : p.isAbsolute = true)
    (q_absolute : q.isAbsolute = true) : p.same q = true := by
  obtain ⟨-, -, eq⟩ := sameForm_iff.1 h
  rwa [FilePath.absoluteComponents_of_isAbsolute p_absolute,
    FilePath.absoluteComponents_of_isAbsolute q_absolute, ← FilePath.same_iff] at eq

end FileSystem

end Loom
