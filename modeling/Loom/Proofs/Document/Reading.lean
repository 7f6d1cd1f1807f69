import Loom.Document.Printer
import Loom.Document.Reader
import Loom.Proofs.Number.Numeral
import Loom.Text.Segments
import Mathlib.Data.List.Forall2

/-!
# Printed documents are read back

The pretty text of a document whose strings are texts and whose numbers are integers
(`Document.Plain`) is read as that document. Each reader is shown to take exactly what the printer
wrote and to leave what follows, whatever that is; only a numeral needs to know that what follows
does not continue it, and there the printer puts a comma, a line break or the end of the text.
-/

namespace Loom.Document

open Number (Numeral)

/-! ## Plain documents -/

mutual
/-- All strings are texts and all numbers are integers. -/
def Plain : Document → Prop
  | .null => True
  | .bool _ => True
  | .number n => ∃ i, n = .ofInt i
  | .string s => s.isSome = true
  | .array items => AllPlain items
  | .object fields => FieldsPlain fields

def AllPlain : List Document → Prop
  | [] => True
  | d :: ds => Plain d ∧ AllPlain ds

def FieldsPlain : List (Option String × Document) → Prop
  | [] => True
  | (key, d) :: fields => key.isSome = true ∧ Plain d ∧ FieldsPlain fields
end

/-! ## Blanks -/

theorem skipSpace_of_not_isSpace {c : Char} {cs : List Char} (h : isSpace c = false) :
    skipSpace (c :: cs) = c :: cs := by
  simp [skipSpace, h]

theorem skipSpace_newline (depth : Nat) (cs : List Char) :
    skipSpace ((newline depth).toList ++ cs) = skipSpace cs := by
  have blank : ∀ c ∈ (newline depth).toList, isSpace c = true := by
    intro c hc
    simp only [newline, String.toList_append, String.toList_ofList, List.mem_append] at hc
    rcases hc with hc | hc
    · cases List.mem_singleton.1 hc; decide
    · cases (List.mem_replicate.1 hc).2; decide
  exact List.dropWhile_append_of_pos blank

/-! ## Strings -/

/-- The piece stands for the character. -/
def Piece.Spells (p : Piece) (c : Char) : Prop := p = .char c ∨ p = .unit c.toNat ∧ c.toNat < 32

theorem hexUnit?_hexDigits {n : Nat} (h : n < 32) :
    hexUnit? '0' '0' (hexDigit (n / 16)) (hexDigit (n % 16)) = some n := by
  have all : ∀ n < 32, hexUnit? '0' '0' (hexDigit (n / 16)) (hexDigit (n % 16)) = some n := by
    decide
  exact all n h

/-- An escaped character is read as one piece. -/
theorem readPieces_escape (c : Char) : ∃ p : Piece, p.Spells c ∧ ∀ cs pieces rest,
    readPieces cs = some (pieces, rest) →
      readPieces (escape c ++ cs) = some (p :: pieces, rest) := by
  unfold escape
  split
  iterate 7
    refine ⟨.char _, .inl rfl, fun cs pieces rest h => ?_⟩
    simp [readPieces, simpleEscape?, h]
  next quote backslash _ _ _ _ _ =>
    split
    · next control =>
      refine ⟨.unit c.toNat, .inr ⟨rfl, control⟩, fun cs pieces rest h => ?_⟩
      simp [readPieces, hexUnit?_hexDigits control, h]
    · next visible =>
      refine ⟨.char c, .inl rfl, fun cs pieces rest h => ?_⟩
      rw [List.singleton_append, readPieces.eq_def]
      split <;> simp_all

theorem readPieces_flatMap_escape (cs rest : List Char) : ∃ pieces,
    List.Forall₂ Piece.Spells pieces cs ∧
      readPieces (cs.flatMap escape ++ '"' :: rest) = some (pieces, rest) := by
  induction cs with
  | nil => exact ⟨[], .nil, by simp [readPieces]⟩
  | cons c cs ih =>
    obtain ⟨pieces, spells, read⟩ := ih
    obtain ⟨p, hp, step⟩ := readPieces_escape c
    refine ⟨p :: pieces, .cons hp spells, ?_⟩
    rw [List.flatMap_cons, List.append_assoc]
    exact step _ _ _ read

/-- A unit below the surrogates is a character, whatever follows it. -/
theorem assemble_unit {n : Nat} (h : n < 32) (pieces : List Piece) :
    assemble (.unit n :: pieces) = (assemble pieces).map (Char.ofNat n :: ·) := by
  have high : isHighSurrogate n = false := by simp [isHighSurrogate]; omega
  have low : isLowSurrogate n = false := by simp [isLowSurrogate]; omega
  cases pieces with
  | nil => simp [assemble, high, low]
  | cons p pieces => cases p <;> simp [assemble, high, low]

theorem assemble_of_spells {pieces : List Piece} {cs : List Char}
    (h : List.Forall₂ Piece.Spells pieces cs) : assemble pieces = some cs := by
  induction h with
  | nil => rfl
  | @cons p c pieces cs hp _ ih =>
    rcases hp with rfl | ⟨rfl, control⟩
    · simp [assemble, ih]
    · simp [assemble_unit control, ih]

theorem readString_quote (s : String) (rest : List Char) :
    readString (s.toList.flatMap escape ++ '"' :: rest) = some (some s, rest) := by
  obtain ⟨pieces, spells, read⟩ := readPieces_flatMap_escape s.toList rest
  simp [readString, read, assemble_of_spells spells]

theorem toList_quote (s : String) :
    (quote s).toList = '"' :: (s.toList.flatMap escape ++ ['"']) := by
  simp [quote]

/-! ## Numbers -/

/-- What the printer puts after a value. -/
def Ends (rest : List Char) : Prop := ∀ c ∈ rest.head?, c = ',' ∨ c = '\n'

theorem Ends.not_isDigit {rest : List Char} (ends : Ends rest) :
    ∀ c ∈ rest.head?, c.isDigit = false := by
  intro c hc
  rcases ends c hc with rfl | rfl <;> decide

theorem readWhole_toDigits (n : Nat) {rest : List Char} (ends : Ends rest) :
    readWhole (Nat.toDigits 10 n ++ rest) = some (Nat.toDigits 10 n, rest) := by
  obtain ⟨taken, dropped⟩ := Text.takeWhile_dropWhile_append
    (fun c (hc : c ∈ Nat.toDigits 10 n) => Number.isDigit_of_mem_toDigits hc) ends.not_isDigit
  have digits : readDigits (Nat.toDigits 10 n ++ rest) = some (Nat.toDigits 10 n, rest) := by
    rw [readDigits, taken, dropped]
    split
    · next none => exact absurd none Nat.toDigits_ne_nil
    · rfl
  have leading : ¬ ((Nat.toDigits 10 n).length > 1 ∧ (Nat.toDigits 10 n).head? = some '0') := by
    rintro ⟨long, zero⟩
    have : n = 0 := by
      rcases Nat.eq_zero_or_pos n with h | h
      · exact h
      · exact absurd zero (Number.head?_toDigits_ne_zero (Nat.ne_of_gt h))
    subst this
    simp at long
  simpa [readWhole, digits] using leading

theorem readNumeral_ofInt (i : Int) {rest : List Char} (ends : Ends rest) :
    readNumeral (((Numeral.ofInt i).textWith "+").toList ++ rest) = some (.ofInt i, rest) := by
  have fraction : readFraction rest = some ([], rest) := by
    cases rest with
    | nil => rfl
    | cons c cs => rcases ends c rfl with rfl | rfl <;> rfl
  have exponent : readExponent rest = some (none, rest) := by
    cases rest with
    | nil => rfl
    | cons c cs => rcases ends c rfl with rfl | rfl <;> rfl
  rw [Numeral.toList_textWith_ofInt]
  by_cases h : i < 0
  · simp [readNumeral, h, readWhole_toDigits _ ends, fraction, exponent, Numeral.ofInt]
  · obtain ⟨c, cs, digits, digit⟩ := Number.exists_cons_toDigits i.natAbs
    have unsigned : c ≠ '-' := by
      rintro rfl
      simp [Char.isDigit] at digit
    have whole := readWhole_toDigits i.natAbs ends
    have sign : decide (i < 0) = false := by simp [h]
    rw [digits, List.cons_append] at whole
    rw [if_neg h, List.nil_append, digits, List.cons_append, readNumeral.eq_def]
    split
    · next heq =>
      split at heq
      · next minus => exact absurd (List.cons.inj minus).1 unsigned
      · obtain ⟨rfl, rfl⟩ := Prod.mk.inj heq
        simp [whole, fraction, exponent, Numeral.ofInt, sign, digits]

/-! ## Values -/

theorem readValue_newline (fuel depth : Nat) (cs : List Char) :
    readValue fuel ((newline depth).toList ++ cs) = readValue fuel cs := by
  cases fuel with
  | zero => simp only [readValue]
  | succ fuel => simp only [readValue, skipSpace_newline]

theorem readFields_newline (fuel depth : Nat) (cs : List Char) :
    readFields fuel ((newline depth).toList ++ cs) = readFields fuel cs := by
  cases fuel with
  | zero => simp only [readFields]
  | succ fuel => simp only [readFields, skipSpace_newline]

theorem ends_newline (depth : Nat) (cs : List Char) : Ends ((newline depth).toList ++ cs) := by
  simp [Ends, newline]

theorem ends_prettyItems (depth outer : Nat) (ds : List Document) (cs : List Char) :
    Ends ((prettyItems depth ds).toList ++ ((newline outer).toList ++ cs)) := by
  cases ds with
  | nil => simpa [prettyItems] using ends_newline outer cs
  | cons d ds => simp [prettyItems, Ends]

theorem ends_prettyFields (depth outer : Nat) (fields : List (Option String × Document))
    (cs : List Char) :
    Ends ((prettyFields depth fields).toList ++ ((newline outer).toList ++ cs)) := by
  cases fields with
  | nil => simpa [prettyFields] using ends_newline outer cs
  | cons f fields => simp [prettyFields, Ends]

/-- A value that starts with a digit or a minus sign is a number. -/
theorem readValue_numeral (fuel : Nat) {c : Char} (cs : List Char)
    (first : c.isDigit = true ∨ c = '-') :
    readValue (fuel + 1) (c :: cs) =
      (readNumeral (c :: cs)).map fun (n, rest) => (.number n, rest) := by
  have visible : isSpace c = false := by
    rcases first with digit | rfl
    · simp only [isSpace, Bool.or_eq_false_iff, beq_eq_false_iff_ne]
      refine ⟨⟨⟨?_, ?_⟩, ?_⟩, ?_⟩ <;> (rintro rfl; simp [Char.isDigit] at digit)
    · decide
  have other : ∀ mark : Char, mark.isDigit = false → mark ≠ '-' → c ≠ mark := by
    rintro mark notDigit notMinus rfl
    rcases first with digit | minus
    · simp [digit] at notDigit
    · exact notMinus minus
  rw [readValue, skipSpace_of_not_isSpace visible]
  split
  · next h => exact absurd (List.cons.inj h).1 (other 'n' (by decide) (by decide))
  · next h => exact absurd (List.cons.inj h).1 (other 't' (by decide) (by decide))
  · next h => exact absurd (List.cons.inj h).1 (other 'f' (by decide) (by decide))
  · next h => exact absurd (List.cons.inj h).1 (other '"' (by decide) (by decide))
  · next h => exact absurd (List.cons.inj h).1 (other '[' (by decide) (by decide))
  · next h => exact absurd (List.cons.inj h).1 (other '\x7b' (by decide) (by decide))
  · rfl

theorem readValue_ofInt (i : Int) (fuel : Nat) {rest : List Char} (ends : Ends rest) :
    readValue (fuel + 1) (((Numeral.ofInt i).textWith "+").toList ++ rest) =
      some (.number (.ofInt i), rest) := by
  have read := readNumeral_ofInt i ends
  have first : ∃ c cs, ((Numeral.ofInt i).textWith "+").toList = c :: cs ∧
      (c.isDigit = true ∨ c = '-') := by
    rw [Numeral.toList_textWith_ofInt]
    by_cases h : i < 0
    · exact ⟨'-', _, by simp [h]; rfl, .inr rfl⟩
    · obtain ⟨c, cs, digits, digit⟩ := Number.exists_cons_toDigits i.natAbs
      exact ⟨c, cs, by simp [h, digits], .inl digit⟩
  obtain ⟨c, cs, text, digit⟩ := first
  rw [text, List.cons_append] at read ⊢
  rw [readValue_numeral fuel _ digit, read]
  rfl

/-- No item starts with the bracket that closes an array. -/
theorem readItems_closed {fuel : Nat} {cs rest : List Char} (h : skipSpace cs = ']' :: rest) :
    readItems fuel cs = none := by
  have value : ∀ fuel, readValue fuel cs = none := by
    intro fuel
    cases fuel with
    | zero => simp only [readValue]
    | succ fuel => simp [readValue, h, readNumeral, readWhole, readDigits, Char.isDigit]
  cases fuel with
  | zero => simp only [readItems]
  | succ fuel => simp [readItems, value]

theorem readFields_closed {fuel : Nat} {cs rest : List Char} (h : skipSpace cs = '\x7d' :: rest) :
    readFields fuel cs = none := by
  cases fuel with
  | zero => simp only [readFields]
  | succ fuel => simp [readFields, h]

/-- An array is read when its items are. -/
theorem readValue_array {fuel : Nat} {cs rest : List Char} {items : List Document}
    (h : readItems fuel cs = some (items, rest)) :
    readValue (fuel + 1) ('[' :: cs) = some (.array items, rest) := by
  simp only [readValue, skipSpace_of_not_isSpace (c := '[') (by decide)]
  split
  · next closed => simp [readItems_closed closed] at h
  · simp [h]

theorem readValue_object {fuel : Nat} {cs rest : List Char}
    {fields : List (Option String × Document)} (h : readFields fuel cs = some (fields, rest)) :
    readValue (fuel + 1) ('\x7b' :: cs) = some (.object fields, rest) := by
  simp only [readValue, skipSpace_of_not_isSpace (c := '\x7b') (by decide)]
  split
  · next closed => simp [readFields_closed closed] at h
  · simp [h]

/-- With this fuel the readers read back every printed value that is shorter than it. -/
structure ReadsBack (fuel : Nat) : Prop where
  value : ∀ (d : Document) (depth : Nat) (rest : List Char), d.Plain →
    (prettyAt depth d).toList.length < fuel → Ends rest →
    readValue fuel ((prettyAt depth d).toList ++ rest) = some (d, rest)
  items : ∀ (d : Document) (ds : List Document) (depth outer : Nat) (rest : List Char),
    d.Plain → AllPlain ds →
    (prettyAt depth d).toList.length + (prettyItems depth ds).toList.length + 1 < fuel →
    readItems fuel ((newline depth).toList ++ ((prettyAt depth d).toList ++
      ((prettyItems depth ds).toList ++ ((newline outer).toList ++ ']' :: rest)))) =
      some (d :: ds, rest)
  fields : ∀ (key : String) (d : Document) (fields : List (Option String × Document))
    (depth outer : Nat) (rest : List Char), d.Plain → FieldsPlain fields →
    (prettyAt depth d).toList.length + (prettyFields depth fields).toList.length + 1 < fuel →
    readFields fuel ((newline depth).toList ++ ((quote key).toList ++ ':' :: ' ' ::
      ((prettyAt depth d).toList ++
        ((prettyFields depth fields).toList ++ ((newline outer).toList ++ '\x7d' :: rest))))) =
      some ((some key, d) :: fields, rest)

namespace ReadsBack

variable {fuel : Nat}

theorem value_succ (h : ReadsBack fuel) (d : Document) (depth : Nat) (rest : List Char)
    (plain : d.Plain) (enough : (prettyAt depth d).toList.length < fuel + 1) (ends : Ends rest) :
    readValue (fuel + 1) ((prettyAt depth d).toList ++ rest) = some (d, rest) := by
  cases d with
  | null => simp [prettyAt, readValue, skipSpace_of_not_isSpace (c := 'n') (by decide)]
  | bool b =>
    cases b with
    | true => simp [prettyAt, readValue, skipSpace_of_not_isSpace (c := 't') (by decide)]
    | false => simp [prettyAt, readValue, skipSpace_of_not_isSpace (c := 'f') (by decide)]
  | number n =>
    simp only [Plain] at plain
    obtain ⟨i, rfl⟩ := plain
    simpa only [prettyAt] using readValue_ofInt i fuel ends
  | string s =>
    obtain ⟨s, rfl⟩ := Option.isSome_iff_exists.1 (by simpa only [Plain] using plain)
    simp [prettyAt, toList_quote, readValue, skipSpace_of_not_isSpace (c := '"') (by decide),
      readString_quote]
  | array items =>
    cases items with
    | nil =>
      simp [prettyAt, readValue, skipSpace_of_not_isSpace (c := '[') (by decide),
        skipSpace_of_not_isSpace (c := ']') (by decide)]
    | cons d ds =>
      simp only [Plain, AllPlain] at plain
      simp [prettyAt] at enough
      have items := h.items d ds (depth + 1) depth rest plain.1 plain.2 (by omega)
      simpa [prettyAt] using readValue_array items
  | object fields =>
    cases fields with
    | nil =>
      simp [prettyAt, readValue, skipSpace_of_not_isSpace (c := '\x7b') (by decide),
        skipSpace_of_not_isSpace (c := '\x7d') (by decide)]
    | cons f fields =>
      obtain ⟨key, d⟩ := f
      simp only [Plain, FieldsPlain] at plain
      obtain ⟨key, rfl⟩ := Option.isSome_iff_exists.1 plain.1
      simp [prettyAt] at enough
      have read := h.fields key d fields (depth + 1) depth rest plain.2.1 plain.2.2 (by omega)
      simpa [prettyAt] using readValue_object read

theorem items_succ (h : ReadsBack fuel) (d : Document) (ds : List Document) (depth outer : Nat)
    (rest : List Char) (plain : d.Plain) (plains : AllPlain ds)
    (enough : (prettyAt depth d).toList.length + (prettyItems depth ds).toList.length + 1 <
      fuel + 1) :
    readItems (fuel + 1) ((newline depth).toList ++ ((prettyAt depth d).toList ++
      ((prettyItems depth ds).toList ++ ((newline outer).toList ++ ']' :: rest)))) =
      some (d :: ds, rest) := by
  have value := h.value d depth _ plain (by omega) (ends_prettyItems depth outer ds (']' :: rest))
  rw [readItems, readValue_newline, value]
  cases ds with
  | nil => simp [prettyItems, skipSpace_newline, skipSpace_of_not_isSpace (c := ']') (by decide)]
  | cons e es =>
    simp only [AllPlain] at plains
    simp [prettyItems] at enough
    have items := h.items e es depth outer rest plains.1 plains.2 (by omega)
    simp [prettyItems, skipSpace_of_not_isSpace (c := ',') (by decide), items]

theorem fields_succ (h : ReadsBack fuel) (key : String) (d : Document)
    (fields : List (Option String × Document)) (depth outer : Nat) (rest : List Char)
    (plain : d.Plain) (plains : FieldsPlain fields)
    (enough : (prettyAt depth d).toList.length + (prettyFields depth fields).toList.length + 1 <
      fuel + 1) :
    readFields (fuel + 1) ((newline depth).toList ++ ((quote key).toList ++ ':' :: ' ' ::
      ((prettyAt depth d).toList ++
        ((prettyFields depth fields).toList ++ ((newline outer).toList ++ '\x7d' :: rest))))) =
      some ((some key, d) :: fields, rest) := by
  have value := h.value d depth _ plain (by omega)
    (ends_prettyFields depth outer fields ('\x7d' :: rest))
  have blank : ∀ cs, readValue fuel (' ' :: cs) = readValue fuel cs := by
    intro cs
    cases fuel with
    | zero => simp only [readValue]
    | succ fuel => simp [readValue, skipSpace, isSpace]
  rw [readFields_newline, readFields, toList_quote]
  simp only [List.cons_append, List.append_assoc, List.nil_append,
    skipSpace_of_not_isSpace (c := '"') (by decide), readString_quote]
  simp only [Option.bind_eq_bind, Option.bind_some, skipSpace_of_not_isSpace (c := ':') (by decide),
    blank, value]
  cases fields with
  | nil =>
    simp [prettyFields, skipSpace_newline, skipSpace_of_not_isSpace (c := '\x7d') (by decide)]
  | cons f fields =>
    obtain ⟨next, e⟩ := f
    simp only [FieldsPlain] at plains
    obtain ⟨next, rfl⟩ := Option.isSome_iff_exists.1 plains.1
    simp [prettyFields] at enough
    have more := h.fields next e fields depth outer rest plains.2.1 plains.2.2 (by omega)
    simp [prettyFields, skipSpace_of_not_isSpace (c := ',') (by decide), more]

end ReadsBack

theorem readsBack : ∀ fuel : Nat, ReadsBack fuel
  | 0 => ⟨fun _ _ _ _ enough => absurd enough (Nat.not_lt_zero _),
      fun _ _ _ _ _ _ _ enough => absurd enough (Nat.not_lt_zero _),
      fun _ _ _ _ _ _ _ _ enough => absurd enough (Nat.not_lt_zero _)⟩
  | fuel + 1 =>
    have h := readsBack fuel
    ⟨h.value_succ, h.items_succ, h.fields_succ⟩

/-- A printed document is read back. -/
theorem parse_pretty (d : Document) (plain : d.Plain) : parse d.pretty = some d := by
  have read := (readsBack (2 * d.pretty.toList.length + 2)).value d 0 [] plain
    (by rw [pretty]; omega) (by simp [Ends])
  rw [List.append_nil, ← pretty] at read
  rw [parse, parseChars, read]
  rfl

end Loom.Document
