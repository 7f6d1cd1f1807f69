import Loom.Proofs.Number.Numeral
import Loom.Proofs.Source.Legible
import Mathlib.Data.List.Basic

/-!
# Words, marks and lists

The small readers that source text is read with. A reader takes a list of characters and returns
what it read with the characters after it: an identifier, an operator, the digits of a number, the
inside of a string constant, a list with a separator between its items.
-/

namespace Loom.Source

open Text (isIdentifier isIdentifierPart)

/-! ## Words and marks -/

/-- What follows `text`, if the characters start with it. -/
def after? : (text : List Char) → List Char → Option (List Char)
  | [], cs => some cs
  | _ :: _, [] => none
  | t :: text, c :: cs => if t = c then after? text cs else none

/-- The identifier characters up to the first other one, and what follows. -/
def readWord (cs : List Char) : String × List Char :=
  (String.ofList (cs.takeWhile isIdentifierPart), cs.dropWhile isIdentifierPart)

/-- No identifier goes on here. -/
def WordEnds (rest : List Char) : Prop := ∀ c ∈ rest.head?, isIdentifierPart c = false

theorem wordEnds_cons {c : Char} (h : isIdentifierPart c = false) (cs : List Char) :
    WordEnds (c :: cs) := by
  rintro _ ⟨⟩
  exact h

theorem after?_eq_some {text cs rest : List Char} :
    after? text cs = some rest ↔ cs = text ++ rest := by
  induction text generalizing cs with
  | nil => simp [after?]
  | cons t text ih =>
    cases cs with
    | nil => simp [after?]
    | cons c cs =>
      by_cases h : t = c
      · simp [after?, h, ih]
      · simp [after?, h, Ne.symm h]

@[simp] theorem after?_append (text cs : List Char) : after? text (text ++ cs) = some cs :=
  after?_eq_some.2 rfl

theorem length_readWord_le (cs : List Char) : (readWord cs).2.length ≤ cs.length :=
  (List.dropWhile_sublist _).length_le

theorem readWord_append {word : List Char} (parts : ∀ c ∈ word, isIdentifierPart c = true)
    {rest : List Char} (ends : WordEnds rest) :
    readWord (word ++ rest) = (String.ofList word, rest) := by
  obtain ⟨taken, dropped⟩ := Text.takeWhile_dropWhile_append parts ends
  rw [readWord, taken, dropped]

theorem readWord_identifier {id : String} (h : isIdentifier id = true) {rest : List Char}
    (ends : WordEnds rest) : readWord (id.toList ++ rest) = (id, rest) := by
  simpa using readWord_append (fun c hc => isIdentifierPart_of_mem h hc) ends

theorem head?_append_ne {p : Char → Bool} {word cs : List Char} {c : Char} (nonempty : word ≠ [])
    (parts : ∀ d ∈ word, p d = true) (h : p c = false) : (word ++ cs).head? ≠ some c := by
  cases word with
  | nil => exact absurd rfl nonempty
  | cons d word =>
    rintro ⟨⟩
    simp [h] at parts

/-! ## Operators -/

/-- An operator between two operands. -/
inductive Operator where
  | compare (op : CmpOp)
  | binary (op : BinOp)

namespace Operator

def symbol : Operator → String
  | .compare op => op.symbol
  | .binary op => op.symbol

def apply (left right : Expr) : Operator → Expr
  | .compare op => .compare left op right
  | .binary op => .binOp left op right

/-- All operators; the longer of two that start alike comes first. -/
def all : List Operator :=
  [.compare .eq, .compare .notEq, .compare .lt, .compare .ltE, .compare .gt, .compare .gtE,
    .compare .isIn, .compare .notIn, .compare .isNot, .compare .is, .binary .add, .binary .sub,
    .binary .mult, .binary .div, .binary .mod, .binary .pow]

end Operator

def readOperator (cs : List Char) : Option (Operator × List Char) :=
  Operator.all.findSome? fun op => (after? (' ' :: op.symbol.toList ++ [' ']) cs).map (op, ·)

/-- An operator is read as itself: `is` is not taken for `is not`, as no operand starts so. -/
theorem readOperator_symbol (op : Operator) {cs : List Char} (h : (readWord cs).1 ≠ "not") :
    readOperator (' ' :: (op.symbol.toList ++ ' ' :: cs)) = some (op, cs) := by
  have word : after? ['n', 'o', 't', ' '] cs = none := by
    rw [Option.eq_none_iff_forall_ne_some]
    intro rest read
    rw [after?_eq_some.1 read] at h
    have not := readWord_identifier (by decide : isIdentifier "not" = true)
      (wordEnds_cons (c := ' ') (by decide) rest)
    exact h (congrArg Prod.fst not)
  cases op with
  | compare op =>
    cases op <;> simp [readOperator, Operator.all, Operator.symbol, CmpOp.symbol, BinOp.symbol,
      after?, word]
  | binary op =>
    cases op <;> simp [readOperator, Operator.all, Operator.symbol, CmpOp.symbol, BinOp.symbol,
      after?]

/-- Operators start with a blank. -/
theorem readOperator_of_ne {c : Char} (cs : List Char) (h : c ≠ ' ') :
    readOperator (c :: cs) = none := by
  simp [readOperator, after?, Ne.symm h]

/-! ## Lists -/

section

variable {α β : Type}

/-- One item of a list; then the list is closed, or `more` reads what follows the separator. -/
def listStep (read : List Char → Option (β × List Char)) (sep close : List Char)
    (more : List Char → Option (List β × List Char)) (cs : List Char) :
    Option (List β × List Char) := do
  let (item, after) ← read cs
  match after? close after with
  | some rest => some ([item], rest)
  | none => do
    let next ← after? sep after
    if next.length < cs.length then
      let (items, rest) ← more next
      some (item :: items, rest)
    else none

/-- A reader that goes item by item reads back a list that has one, if it reads back the items. -/
theorem readsList {read : List Char → Option (β × List Char)} {sep close : List Char}
    {F : List Char → Option (List β × List Char)} (step : ∀ cs, F cs = listStep read sep close F cs)
    (nonempty : 0 < sep.length) (apart : ∀ cs, after? close (sep ++ cs) = none)
    (text : α → String) (result : α → β) (rest : List Char) : ∀ (a : α) (as : List α),
      (∀ b ∈ a :: as, ∀ cs, read ((text b).toList ++ (sep ++ cs)) = some (result b, sep ++ cs)) →
      (∀ b ∈ a :: as, read ((text b).toList ++ (close ++ rest)) = some (result b, close ++ rest)) →
      F (sep.intercalate ((a :: as).map fun b => (text b).toList) ++ (close ++ rest)) =
        some ((a :: as).map result, rest)
  | a, [], _, last => by
    have item := last a (List.mem_cons_self ..)
    rw [step, List.map_singleton, List.intercalate_singleton]
    simp [listStep, item]
  | a, b :: as, inner, last => by
    have tail := readsList step nonempty apart text result rest b as
      (fun c hc => inner c (List.mem_cons_of_mem _ hc))
      (fun c hc => last c (List.mem_cons_of_mem _ hc))
    rw [List.map_cons] at tail
    rw [step, List.map_cons, List.map_cons, List.intercalate_cons_cons]
    simp only [List.append_assoc, listStep, inner a (List.mem_cons_self ..), Option.bind_eq_bind,
      Option.bind_some, apart, after?_append, tail]
    rw [if_pos (by simp only [List.length_append]; omega)]
    rfl

end

/-! ## Constants -/

/-- A string constant whose opening quote is read. -/
def readQuoted : List Char → Option (List Char × List Char)
  | [] => none
  | '\'' :: rest => some ([], rest)
  | '\\' :: '\\' :: rest => (readQuoted rest).map fun (s, rest) => ('\\' :: s, rest)
  | '\\' :: '\'' :: rest => (readQuoted rest).map fun (s, rest) => ('\'' :: s, rest)
  | '\\' :: 'n' :: rest => (readQuoted rest).map fun (s, rest) => ('\n' :: s, rest)
  | '\\' :: 'r' :: rest => (readQuoted rest).map fun (s, rest) => ('\r' :: s, rest)
  | '\\' :: 't' :: rest => (readQuoted rest).map fun (s, rest) => ('\t' :: s, rest)
  | c :: rest => (readQuoted rest).map fun (s, rest) => (c :: s, rest)

theorem readQuoted_escapeChar (c : Char) (cs : List Char) :
    readQuoted (escapeChar c ++ cs) = (readQuoted cs).map fun (s, rest) => (c :: s, rest) := by
  unfold escapeChar
  split
  iterate 5 simp [readQuoted]
  next backslash quote _ _ _ =>
    rw [List.singleton_append, readQuoted.eq_def]
    split <;> simp_all

theorem readQuoted_flatMap_escapeChar (cs rest : List Char) :
    readQuoted (cs.flatMap escapeChar ++ '\'' :: rest) = some (cs, rest) := by
  induction cs with
  | nil => simp [readQuoted]
  | cons c cs ih => simp [List.flatMap_cons, readQuoted_escapeChar, ih]

def readNatural (cs : List Char) : Nat × List Char :=
  (Nat.ofDigitChars 10 (cs.takeWhile Char.isDigit) 0, cs.dropWhile Char.isDigit)

theorem isIdentifierPart_of_isDigit {c : Char} (h : c.isDigit = true) :
    isIdentifierPart c = true := by
  have ascii : Unicode.isAscii c = true := by
    simp only [Char.isDigit, Bool.and_eq_true, decide_eq_true_eq, ge_iff_le,
      UInt32.le_iff_toNat_le] at h
    have : c.toNat ≤ 57 := h.2
    simp only [Unicode.isAscii, decide_eq_true_eq]
    omega
  simp [isIdentifierPart, Unicode.isAlphanumeric, Unicode.isNumeric, ascii, h]

theorem readNatural_toDigits (n : Nat) {rest : List Char} (ends : WordEnds rest) :
    readNatural (Nat.toDigits 10 n ++ rest) = (n, rest) := by
  have stop : ∀ c ∈ rest.head?, c.isDigit = false := by
    intro c hc
    rw [← Bool.not_eq_true]
    intro digit
    simpa [ends c hc] using isIdentifierPart_of_isDigit digit
  obtain ⟨taken, dropped⟩ := Text.takeWhile_dropWhile_append
    (fun c (hc : c ∈ Nat.toDigits 10 n) => Number.isDigit_of_mem_toDigits hc) stop
  rw [readNatural, taken, dropped, Nat.ofDigitChars_ten_toDigits]

end Loom.Source
