import Loom.Number.Numeral

/-!
# Written numerals

The digits of a natural number hold no leading zero and spell the number again, so the numeral of an
integer is read as that integer. The numeral of an integer or a double has digits on both sides of
its point and nothing else, so its text has no characters but digits and the marks of a numeral.
-/

namespace Loom.Number

theorem isDigit_of_mem_toDigits {n : Nat} {c : Char} (h : c ∈ Nat.toDigits 10 n) :
    c.isDigit = true :=
  Nat.isDigit_of_mem_toDigits (by decide) (by decide) h

theorem exists_cons_toDigits (n : Nat) :
    ∃ c cs, Nat.toDigits 10 n = c :: cs ∧ c.isDigit = true := by
  obtain ⟨c, cs, digits⟩ := List.exists_cons_of_ne_nil (Nat.toDigits_ne_nil (b := 10) (n := n))
  exact ⟨c, cs, digits, isDigit_of_mem_toDigits (by rw [digits]; exact List.mem_cons_self ..)⟩

/-- A number other than zero starts with another digit than zero. -/
theorem head?_toDigits_ne_zero {n : Nat} (h : n ≠ 0) : (Nat.toDigits 10 n).head? ≠ some '0' := by
  induction n using Nat.strongRecOn with
  | _ n ih =>
    rcases Nat.lt_or_ge n 10 with small | large
    · rw [Nat.toDigits_of_lt_base small]
      have all : ∀ n < 10, n ≠ 0 → [n.digitChar].head? ≠ some '0' := by decide
      exact all n small h
    · have first := ih (n / 10) (by omega) (by omega)
      rw [Nat.toDigits_of_base_le (by decide) large]
      cases digits : Nat.toDigits 10 (n / 10) with
      | nil => exact absurd digits Nat.toDigits_ne_nil
      | cons c cs => simpa [digits] using first

theorem toDigits_eq_zero_iff {n : Nat} : Nat.toDigits 10 n = ['0'] ↔ n = 0 := by
  constructor
  · intro h
    rcases Nat.eq_zero_or_pos n with zero | pos
    · exact zero
    · exact absurd (by simp [h]) (head?_toDigits_ne_zero (Nat.ne_of_gt pos))
  · rintro rfl
    exact Nat.toDigits_zero 10

namespace Numeral

@[simp] theorem toInt?_ofInt (i : Int) : (ofInt i).toInt? = some i := by
  have integral : (ofInt i).isIntegral = true := by
    simp only [ofInt, isIntegral, List.isEmpty_nil, Option.isNone_none, Bool.true_and,
      Bool.not_eq_true', Bool.and_eq_false_iff, decide_eq_false_iff_not, beq_eq_false_iff_ne, ne_eq,
      toDigits_eq_zero_iff]
    omega
  rw [toInt?, if_pos integral]
  simp only [ofInt, Nat.ofDigitChars_ten_toDigits, decide_eq_true_eq, Option.some.injEq]
  split <;> omega

/-- The text of an integer: a sign if it is negative, then digits. -/
theorem toList_textWith_ofInt (plus : String) (i : Int) :
    ((ofInt i).textWith plus).toList =
      (if i < 0 then ['-'] else []) ++ Nat.toDigits 10 i.natAbs := by
  by_cases h : i < 0 <;> simp [textWith, ofInt, h]

/-! ## Characters -/

/-- Digits before the point, at least one, and digits after it. -/
structure IsSpelled (n : Numeral) : Prop where
  whole_ne_nil : n.whole ≠ []
  whole : ∀ c ∈ n.whole, c.isDigit = true
  fraction : ∀ c ∈ n.fraction, c.isDigit = true

theorem isSpelled_ofInt (i : Int) : (ofInt i).IsSpelled where
  whole_ne_nil := Nat.toDigits_ne_nil
  whole _ := isDigit_of_mem_toDigits
  fraction := nofun

theorem isSpelled_ofBinary64 (layout : Layout) (x : Binary64) :
    (ofBinary64 layout x).IsSpelled := by
  have zeros : ∀ k, ∀ c ∈ List.replicate k '0', c.isDigit = true := fun k c hc => by
    rw [List.eq_of_mem_replicate hc]
    rfl
  have zero : ∀ c ∈ ['0'], c.isDigit = true := zeros 1
  rw [ofBinary64]
  split
  · exact ⟨List.cons_ne_nil _ _, zero, zero⟩
  have digits : ∀ c ∈ Nat.toDigits 10 (x.shortest layout.tie).digits, c.isDigit = true :=
    fun c => isDigit_of_mem_toDigits
  have some_digit : Nat.toDigits 10 (x.shortest layout.tie).digits ≠ [] := Nat.toDigits_ne_nil
  have taken : ∀ k, ∀ c ∈ (Nat.toDigits 10 (x.shortest layout.tie).digits).take k,
      c.isDigit = true := fun _ c hc => digits c (List.mem_of_mem_take hc)
  have dropped : ∀ k, ∀ c ∈ (Nat.toDigits 10 (x.shortest layout.tie).digits).drop k,
      c.isDigit = true := fun _ c hc => digits c (List.mem_of_mem_drop hc)
  dsimp only
  split
  · split
    · exact ⟨by simp [some_digit], List.forall_mem_append.2 ⟨digits, zeros _⟩, zero⟩
    · split
      · next positive => exact ⟨by simp [some_digit]; omega, taken _, dropped _⟩
      · exact ⟨List.cons_ne_nil _ _, zero, List.forall_mem_append.2 ⟨zeros _, digits⟩⟩
  · exact ⟨by simp [some_digit], taken _, dropped _⟩

theorem IsSpelled.text_ne_empty {n : Numeral} (h : n.IsSpelled) : n.text ≠ "" := by
  have some_digit := h.whole_ne_nil
  rw [ne_eq, ← String.toList_eq_nil_iff]
  simp [text, textWith, some_digit]

theorem IsSpelled.of_mem_text {n : Numeral} (h : n.IsSpelled) {c : Char}
    (hc : c ∈ n.text.toList) : c.isDigit = true ∨ c ∈ ['-', '.', 'e'] := by
  simp only [text, textWith, String.toList_append, List.mem_append] at hc
  obtain ((hc | hc) | hc) | hc := hc
  · split at hc <;> simp_all
  · exact .inl (h.whole c (by simpa using hc))
  · split at hc
    · simp at hc
    · obtain rfl | hc : c = '.' ∨ c ∈ n.fraction := by simpa using hc
      · simp
      · exact .inl (h.fraction c hc)
  · split at hc
    · simp at hc
    · simp only [String.toList_append, List.mem_append, String.toList_ofList] at hc
      obtain (hc | hc) | hc := hc
      · simp_all
      · split at hc <;> simp_all
      · exact .inl (isDigit_of_mem_toDigits hc)

end Numeral

end Loom.Number
