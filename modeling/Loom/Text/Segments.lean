/-!
# Separated texts

Cutting a text at every occurrence of a separator. There is always at least one segment, and the
segments joined by the separator are the text again.
-/

namespace Loom.Text

/-- The stretches between the occurrences of `sep`. -/
def splitChars (sep : Char) : List Char → List (List Char)
  | [] => [[]]
  | c :: cs =>
    if c = sep then [] :: splitChars sep cs
    else match splitChars sep cs with
      | [] => [[c]]
      | first :: rest => (c :: first) :: rest

/-- The segments joined by the separator. -/
def joinChars (sep : Char) : List (List Char) → List Char
  | [] => []
  | [s] => s
  | s :: ss => s ++ sep :: joinChars sep ss

def segments (sep : Char) (s : String) : List String := (splitChars sep s.toList).map String.ofList

theorem splitChars_ne_nil (sep : Char) (cs : List Char) : splitChars sep cs ≠ [] := by
  cases cs with
  | nil => simp [splitChars]
  | cons c cs =>
    simp only [splitChars]
    split
    · simp
    · split <;> simp

theorem joinChars_splitChars (sep : Char) (cs : List Char) :
    joinChars sep (splitChars sep cs) = cs := by
  induction cs with
  | nil => rfl
  | cons c cs ih =>
    simp only [splitChars]
    split
    · next h =>
      cases hs : splitChars sep cs with
      | nil => exact absurd hs (splitChars_ne_nil sep cs)
      | cons first rest => rw [hs] at ih; simp [joinChars, ih, h]
    · cases hs : splitChars sep cs with
      | nil => exact absurd hs (splitChars_ne_nil sep cs)
      | cons first rest =>
        rw [hs] at ih
        cases rest with
        | nil => simpa [joinChars] using ih
        | cons second rest => simpa [joinChars] using ih

theorem splitChars_of_not_mem {sep : Char} {cs : List Char} (h : sep ∉ cs) :
    splitChars sep cs = [cs] := by
  induction cs with
  | nil => rfl
  | cons c cs ih =>
    simp only [List.mem_cons, not_or] at h
    simp [splitChars, Ne.symm h.1, ih h.2]

/-- No segment holds the separator. -/
theorem not_mem_of_mem_splitChars {sep : Char} {cs s : List Char} (h : s ∈ splitChars sep cs) :
    sep ∉ s := by
  induction cs generalizing s with
  | nil => simp [splitChars] at h; simp [h]
  | cons c cs ih =>
    simp only [splitChars] at h
    split at h
    · rcases List.mem_cons.1 h with rfl | h
      · simp
      · exact ih h
    · next hc =>
      cases hs : splitChars sep cs with
      | nil => exact absurd hs (splitChars_ne_nil sep cs)
      | cons first rest =>
        rw [hs] at h ih
        rcases List.mem_cons.1 h with rfl | h
        · have := ih (List.mem_cons_self ..)
          simp only [List.mem_cons, not_or]
          exact ⟨fun e => hc e.symm, this⟩
        · exact ih (List.mem_cons_of_mem _ h)

/-- A stretch of characters that pass a test ends where one does not. -/
theorem takeWhile_dropWhile_append {p : Char → Bool} {stretch rest : List Char}
    (pass : ∀ c ∈ stretch, p c = true) (stop : ∀ c ∈ rest.head?, p c = false) :
    (stretch ++ rest).takeWhile p = stretch ∧ (stretch ++ rest).dropWhile p = rest := by
  rw [List.takeWhile_append_of_pos pass, List.dropWhile_append_of_pos pass]
  cases rest with
  | nil => simp
  | cons c cs => simp [stop c rfl]

end Loom.Text
