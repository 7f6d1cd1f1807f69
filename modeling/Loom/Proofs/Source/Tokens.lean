import Loom.Proofs.Source.ExprReader

/-!
# Tokens

The tokens that the text of an expression is cut into. As in Python the longest mark is taken,
blanks only part what stands around them, and digits with a point right after them start a decimal
fraction and are no integer. The text of a legible expression has the tokens of its parts, except
that a point after an integer constant goes to the digits (`pointed`).
-/

namespace Loom.Source

open Text (isIdentifier isIdentifierStart isIdentifierPart)
open Number (Numeral)

/-! ## Cutting a text -/

/-- The marks of expressions. -/
inductive Mark where
  | power
  | eq
  | notEq
  | ltE
  | gtE
  | lt
  | gt
  | plus
  | minus
  | star
  | slash
  | percent
  | assign
  | comma
  | point
  | openParen
  | closeParen
  | openBracket
  | closeBracket
  deriving DecidableEq

namespace Mark

def text : Mark → List Char
  | power => ['*', '*']
  | eq => ['=', '=']
  | notEq => ['!', '=']
  | ltE => ['<', '=']
  | gtE => ['>', '=']
  | lt => ['<']
  | gt => ['>']
  | plus => ['+']
  | minus => ['-']
  | star => ['*']
  | slash => ['/']
  | percent => ['%']
  | assign => ['=']
  | comma => [',']
  | point => ['.']
  | openParen => ['(']
  | closeParen => [')']
  | openBracket => ['[']
  | closeBracket => [']']

/-- All marks; the longer of two that start alike comes first. -/
def all : List Mark :=
  [power, eq, notEq, ltE, gtE, lt, gt, plus, minus, star, slash, percent, assign, comma, point,
    openParen, closeParen, openBracket, closeBracket]

/-- The mark is not the start of a longer one here. -/
def EndsAt (m : Mark) (rest : List Char) : Prop :=
  (m = star → rest.head? ≠ some '*') ∧ (m ∈ [assign, lt, gt] → rest.head? ≠ some '=')

end Mark

inductive Token where
  | word (text : String)
  | natural (n : Nat)
  /-- Digits with a point. -/
  | decimal (n : Nat)
  | text (s : String)
  | mark (m : Mark)
  deriving DecidableEq

def readMark (cs : List Char) : Option (Mark × List Char) :=
  Mark.all.findSome? fun m => (after? m.text cs).map (m, ·)

/-- A number goes up to where its digits end, with the point if there is one; no letter may
follow. -/
def readNumber (cs : List Char) : Option (Token × List Char) :=
  match (readNatural cs).2 with
  | '.' :: rest => some (.decimal (readNatural cs).1, rest)
  | rest =>
    if rest.head?.any isIdentifierPart then none else some (.natural (readNatural cs).1, rest)

/-- The token that the characters start with. -/
def readToken : List Char → Option (Token × List Char)
  | [] => none
  | '\'' :: cs => (readQuoted cs).map fun (s, rest) => (.text (String.ofList s), rest)
  | c :: cs =>
    if c.isDigit then readNumber (c :: cs)
    else if isIdentifierStart c then some (.word (readWord (c :: cs)).1, (readWord (c :: cs)).2)
    else (readMark (c :: cs)).map fun (m, rest) => (.mark m, rest)

/-- The tokens of a text. -/
def lex (cs : List Char) : Option (List Token) :=
  match cs with
  | [] => some []
  | ' ' :: cs => lex cs
  | cs => do
    let (t, rest) ← readToken cs
    if rest.length < cs.length then (lex rest).map (t :: ·) else none
termination_by cs.length

section

variable {cs rest : List Char} {t : Token} {id : String}

@[simp] theorem lex_nil : lex [] = some [] := by
  rw [lex]

@[simp] theorem lex_blank (cs : List Char) : lex (' ' :: cs) = lex cs := by
  rw [lex]

theorem length_lt_cons_append (c : Char) (cs rest : List Char) :
    rest.length < (c :: (cs ++ rest)).length := by
  rw [List.length_cons, List.length_append]
  omega

theorem lex_of_readToken (first : cs.head? ≠ some ' ') (read : readToken cs = some (t, rest))
    (shorter : rest.length < cs.length) : lex cs = (lex rest).map (t :: ·) := by
  rw [lex.eq_def]
  split
  · simp [readToken] at read
  · simp at first
  · simp [read, shorter]

theorem readToken_of_ne {c : Char} (quote : c ≠ '\'') (cs : List Char) :
    readToken (c :: cs) =
      if c.isDigit then readNumber (c :: cs)
      else if isIdentifierStart c then some (.word (readWord (c :: cs)).1, (readWord (c :: cs)).2)
      else (readMark (c :: cs)).map fun (m, rest) => (.mark m, rest) := by
  rw [readToken.eq_def]
  split <;> simp_all

/-! ## Words and constants -/

theorem lex_word (h : isIdentifier id = true) (ends : WordEnds rest) :
    lex (id.toList ++ rest) = (lex rest).map (.word id :: ·) := by
  have word := readWord_identifier h ends
  obtain ⟨c, cs, chars⟩ := List.exists_cons_of_ne_nil (ne_nil_of_isIdentifier h)
  have start : isIdentifierStart c = true := by
    simp only [isIdentifier, chars, Text.isIdentifierChars, Bool.and_eq_true] at h
    exact h.1
  have quote : c ≠ '\'' := by
    rintro rfl
    revert start
    decide
  have blank : c ≠ ' ' := by
    rintro rfl
    revert start
    decide
  rw [chars, List.cons_append] at word ⊢
  refine lex_of_readToken (by simpa using blank) ?_ (length_lt_cons_append ..)
  rw [readToken_of_ne quote, isDigit_of_isIdentifierStart start, if_neg Bool.false_ne_true,
    if_pos start, word]

theorem lex_of_readNumber {c : Char} (digit : c.isDigit = true)
    (read : readNumber (c :: cs) = some (t, rest)) (shorter : rest.length < cs.length + 1) :
    lex (c :: cs) = (lex rest).map (t :: ·) := by
  have quote : c ≠ '\'' := by
    rintro rfl
    revert digit
    decide
  have blank : c ≠ ' ' := by
    rintro rfl
    revert digit
    decide
  exact lex_of_readToken (by simpa using blank) (by rw [readToken_of_ne quote, if_pos digit, read])
    shorter

theorem lex_natural (n : Nat) (ends : WordEnds rest) (no_point : rest.head? ≠ some '.') :
    lex (Nat.toDigits 10 n ++ rest) = (lex rest).map (.natural n :: ·) := by
  have number : readNumber (Nat.toDigits 10 n ++ rest) = some (.natural n, rest) := by
    rw [readNumber, readNatural_toDigits n ends]
    cases rest with
    | nil => rfl
    | cons c cs =>
      have part : isIdentifierPart c = false := ends c rfl
      have point : c ≠ '.' := by simpa using no_point
      split
      · next eq => exact absurd (List.cons.inj eq).1 point
      · simp [part]
  obtain ⟨c, cs, digits, digit⟩ := Number.exists_cons_toDigits n
  rw [digits, List.cons_append] at number ⊢
  exact lex_of_readNumber digit number (length_lt_cons_append c cs rest)

/-- A point right after digits is taken with them. -/
theorem lex_decimal (n : Nat) (rest : List Char) :
    lex (Nat.toDigits 10 n ++ '.' :: rest) = (lex rest).map (.decimal n :: ·) := by
  have number : readNumber (Nat.toDigits 10 n ++ '.' :: rest) = some (.decimal n, rest) := by
    rw [readNumber, readNatural_toDigits n (wordEnds_cons (by decide) rest)]
    rfl
  obtain ⟨c, cs, digits, digit⟩ := Number.exists_cons_toDigits n
  rw [digits, List.cons_append] at number ⊢
  exact lex_of_readNumber digit number (by rw [List.length_append, List.length_cons]; omega)

theorem lex_str (s : String) (rest : List Char) :
    lex ((Constant.str s).source.toList ++ rest) = (lex rest).map (.text s :: ·) := by
  have text : (Constant.str s).source.toList ++ rest =
      '\'' :: (s.toList.flatMap escapeChar ++ '\'' :: rest) := by
    simp [Constant.source]
  rw [text]
  refine lex_of_readToken (by simp) ?_
    (by rw [List.length_cons, List.length_append, List.length_cons]; omega)
  simp [readToken, readQuoted_flatMap_escapeChar]

/-! ## Marks and operators -/

theorem after?_of_head? {c : Char} {text : List Char} (h : rest.head? ≠ some c) :
    after? (c :: text) rest = none := by
  cases rest with
  | nil => rfl
  | cons d rest => simp_all [after?, eq_comm]

theorem readMark_text {m : Mark} (ends : m.EndsAt rest) :
    readMark (m.text ++ rest) = some (m, rest) := by
  obtain ⟨star, equality⟩ := ends
  have no_power (h : m = .star) : after? ['*'] rest = none := after?_of_head? (star h)
  have no_equality (h : m ∈ [Mark.assign, .lt, .gt]) : after? ['='] rest = none :=
    after?_of_head? (equality h)
  cases m <;> simp_all [readMark, Mark.all, Mark.text, after?]

theorem lex_mark {m : Mark} (ends : m.EndsAt rest) :
    lex (m.text ++ rest) = (lex rest).map (.mark m :: ·) := by
  have read := readMark_text ends
  obtain ⟨c, cs, text, quote, blank, digit, start⟩ : ∃ c cs, m.text = c :: cs ∧ c ≠ '\'' ∧
      c ≠ ' ' ∧ c.isDigit = false ∧ isIdentifierStart c = false := by
    cases m <;> exact ⟨_, _, rfl, by decide, by decide, by decide, by decide⟩
  rw [text, List.cons_append] at read ⊢
  refine lex_of_readToken (by simpa using blank) ?_ (length_lt_cons_append ..)
  rw [readToken_of_ne quote, digit, start, if_neg Bool.false_ne_true, if_neg Bool.false_ne_true,
    read]
  rfl

/-- A blank ends every mark. -/
theorem lex_mark_blank (m : Mark) (rest : List Char) :
    lex (m.text ++ ' ' :: rest) = (lex rest).map (.mark m :: ·) := by
  rw [lex_mark ⟨fun _ => by simp, fun _ => by simp⟩, lex_blank]

theorem lex_word_blank (h : isIdentifier id = true) (rest : List Char) :
    lex (id.toList ++ ' ' :: rest) = (lex rest).map (.word id :: ·) := by
  rw [lex_word h (wordEnds_cons (by decide) rest), lex_blank]

/-- A mark that is never the start of a longer one. -/
theorem lex_lone_mark {m : Mark} (lone : m ∉ [Mark.star, .assign, .lt, .gt]) (rest : List Char) :
    lex (m.text ++ rest) = (lex rest).map (.mark m :: ·) := by
  simp only [List.mem_cons, List.not_mem_nil, or_false, not_or] at lone
  refine lex_mark ⟨fun star => absurd star lone.1, fun equality => ?_⟩
  simp [lone] at equality

end

def Operator.tokens : Operator → List Token
  | .compare .eq => [.mark .eq]
  | .compare .notEq => [.mark .notEq]
  | .compare .lt => [.mark .lt]
  | .compare .ltE => [.mark .ltE]
  | .compare .gt => [.mark .gt]
  | .compare .gtE => [.mark .gtE]
  | .compare .isIn => [.word "in"]
  | .compare .notIn => [.word "not", .word "in"]
  | .compare .is => [.word "is"]
  | .compare .isNot => [.word "is", .word "not"]
  | .binary .add => [.mark .plus]
  | .binary .sub => [.mark .minus]
  | .binary .mult => [.mark .star]
  | .binary .div => [.mark .slash]
  | .binary .mod => [.mark .percent]
  | .binary .pow => [.mark .power]

theorem lex_operator (op : Operator) (rest : List Char) :
    lex (' ' :: (op.symbol.toList ++ ' ' :: rest)) = (lex rest).map (op.tokens ++ ·) := by
  have mark (m : Mark) : lex (' ' :: (m.text ++ ' ' :: rest)) = (lex rest).map (.mark m :: ·) := by
    rw [lex_blank, lex_mark_blank]
  have word {w : String} (h : isIdentifier w = true) (rest : List Char) :
      lex (' ' :: (w.toList ++ ' ' :: rest)) = (lex rest).map (.word w :: ·) := by
    rw [lex_blank, lex_word_blank h]
  have two {v w : String} (hv : isIdentifier v = true) (hw : isIdentifier w = true) :
      lex (' ' :: ((v ++ " " ++ w).toList ++ ' ' :: rest)) =
        (lex rest).map ([.word v, .word w] ++ ·) := by
    have text : ' ' :: ((v ++ " " ++ w).toList ++ ' ' :: rest) =
        ' ' :: (v.toList ++ ' ' :: (w.toList ++ ' ' :: rest)) := by
      simp
    rw [text, word hv, lex_word_blank hw, Option.map_map]
    rfl
  match op with
  | .compare .eq => exact mark .eq
  | .compare .notEq => exact mark .notEq
  | .compare .lt => exact mark .lt
  | .compare .ltE => exact mark .ltE
  | .compare .gt => exact mark .gt
  | .compare .gtE => exact mark .gtE
  | .compare .isIn => exact word (w := "in") (by decide) rest
  | .compare .notIn => exact two (v := "not") (w := "in") (by decide) (by decide)
  | .compare .is => exact word (w := "is") (by decide) rest
  | .compare .isNot => exact two (v := "is") (w := "not") (by decide) (by decide)
  | .binary .add => exact mark .plus
  | .binary .sub => exact mark .minus
  | .binary .mult => exact mark .star
  | .binary .div => exact mark .slash
  | .binary .mod => exact mark .percent
  | .binary .pow => exact mark .power

/-! ## The tokens of an expression -/

/-- Whether the text of the expression as an operand starts with a minus. -/
def isNegative : Expr → Bool
  | .constant (.int i) => i < 0
  | .attribute value _ => isNegative value
  | .call func _ _ => isNegative func
  | _ => false

/-- That minus. -/
def sign (e : Expr) : List Token := if isNegative e then [.mark .minus] else []

/-- The tokens of an operand, parenthesised if it is an operation. -/
def enclosed (e : Expr) (ts : List Token) : List Token :=
  if e.isOperation then .mark .openParen :: (ts ++ [.mark .closeParen]) else ts

/-- The tokens of an operand and the point after it. -/
def pointed : Expr → List Token → List Token
  | .constant (.int i), _ => [.decimal i.natAbs]
  | _, ts => ts ++ [.mark .point]

def IsInteger (e : Expr) : Prop := ∃ i, e = .constant (.int i)

def constantTokens : Constant → List Token
  | .none => [.word "None"]
  | .bool true => [.word "True"]
  | .bool false => [.word "False"]
  | .int i => [.natural i.natAbs]
  | .float _ => []
  | .str s => [.text s]

def commaTokens (items : List (List Token)) : List Token := [Token.mark .comma].intercalate items

mutual
/-- The tokens of an expression after its minus. -/
def body : Expr → List Token
  | .name id => [.word id]
  | .attribute value attr => pointed value (enclosed value (body value)) ++ [.word attr]
  | .call func args keywords => enclosed func (body func) ++
      .mark .openParen :: (commaTokens (tokensIn args ++ keywordTokens keywords) ++
        [.mark .closeParen])
  | .constant c => constantTokens c
  | .tuple [item] =>
    .mark .openParen :: (sign item ++ body item ++ [.mark .comma, .mark .closeParen])
  | .tuple items => .mark .openParen :: (commaTokens (tokensIn items) ++ [.mark .closeParen])
  | .list items => .mark .openBracket :: (commaTokens (tokensIn items) ++ [.mark .closeBracket])
  | .compare left op right => sign left ++ enclosed left (body left) ++
      ((Operator.compare op).tokens ++ (sign right ++ enclosed right (body right)))
  | .binOp left op right => sign left ++ enclosed left (body left) ++
      ((Operator.binary op).tokens ++ (sign right ++ enclosed right (body right)))
  | .woven w => [.word w.shortName, .mark .point, .word w.declName]

def tokensIn : List Expr → List (List Token)
  | [] => []
  | e :: es => (sign e ++ body e) :: tokensIn es

def keywordTokens : List (Keyword Expr) → List (List Token)
  | [] => []
  | ⟨arg, value⟩ :: rest =>
    (.word arg :: .mark .assign :: (sign value ++ body value)) :: keywordTokens rest
end

/-- The tokens of an expression. -/
def tokens (e : Expr) : List Token := sign e ++ body e

def operandTokens (e : Expr) : List Token := sign e ++ enclosed e (body e)

def Argument.tokens : Argument → List Token
  | .positional e => Source.tokens e
  | .keyword k => .word k.arg :: .mark .assign :: Source.tokens k.value

theorem tokensIn_append_keywordTokens (args : List Expr) (keywords : List (Keyword Expr)) :
    tokensIn args ++ keywordTokens keywords = (arguments args keywords).map Argument.tokens := by
  have positional : tokensIn args = args.map tokens := by
    induction args with
    | nil => rfl
    | cons e es ih => rw [tokensIn, ih]; rfl
  have keyword : keywordTokens keywords =
      keywords.map fun k => .word k.arg :: .mark .assign :: tokens k.value := by
    induction keywords with
    | nil => rfl
    | cons k ks ih => rw [keywordTokens, ih]; rfl
  simp [positional, keyword, arguments, Argument.tokens, Function.comp_def]

theorem tokensIn_eq_map (items : List Expr) :
    tokensIn items = (arguments items []).map Argument.tokens := by
  simpa [keywordTokens] using tokensIn_append_keywordTokens items []

theorem enclosed_of_not_isOperation {e : Expr} (h : e.isOperation = false) (ts : List Token) :
    enclosed e ts = ts := by
  simp [enclosed, h]

theorem enclosed_of_isOperation {e : Expr} (h : e.isOperation = true) (ts : List Token) :
    enclosed e ts = .mark .openParen :: (ts ++ [.mark .closeParen]) := by
  simp [enclosed, h]

theorem operandTokens_of_not_isOperation {e : Expr} (h : e.isOperation = false) :
    operandTokens e = tokens e := by
  rw [operandTokens, enclosed_of_not_isOperation h, tokens]

theorem pointed_of_not_isInteger {e : Expr} (h : ¬ IsInteger e) (ts : List Token) :
    pointed e ts = ts ++ [.mark .point] := by
  unfold pointed
  split
  · exact absurd ⟨_, rfl⟩ h
  · rfl

theorem sign_of_isOperation {e : Expr} (h : e.isOperation = true) : sign e = [] := by
  cases e <;> first | rfl | cases h

/-! ## The tokens of a text -/

/-- What follows does not continue a word, nor a number if one stands before it. -/
structure Apart (number : Prop) (rest : List Char) : Prop where
  wordEnds : WordEnds rest
  no_point : number → rest.head? ≠ some '.'

/-- The text has the tokens `ts`, whatever follows it. -/
def Lexes (number : Prop) (text : List Char) (ts : List Token) : Prop :=
  ∀ rest, Apart number rest → lex (text ++ rest) = (lex rest).map (ts ++ ·)

/-- The text of an expression, which may end with a number. -/
abbrev LexesSource (e : Expr) : Prop :=
  Lexes (IsInteger e ∨ e.isOperation = true) e.source.toList (tokens e)

/-- The text of an operand, which is a number or ends with another mark. -/
abbrev LexesOperand (e : Expr) : Prop := Lexes (IsInteger e) (operandText e) (operandTokens e)

theorem apart_cons (number : Prop) {c : Char} (part : isIdentifierPart c = false) (point : c ≠ '.')
    (rest : List Char) : Apart number (c :: rest) :=
  ⟨wordEnds_cons part rest, fun _ => by simpa using point⟩

section

variable {e : Expr} {rest : List Char}

theorem lex_openParen (rest : List Char) :
    lex ('(' :: rest) = (lex rest).map (.mark .openParen :: ·) :=
  lex_lone_mark (m := .openParen) (by decide) rest

theorem lex_closeParen (rest : List Char) :
    lex (')' :: rest) = (lex rest).map (.mark .closeParen :: ·) :=
  lex_lone_mark (m := .closeParen) (by decide) rest

theorem lex_comma (rest : List Char) :
    lex (',' :: rest) = (lex rest).map (.mark .comma :: ·) :=
  lex_lone_mark (m := .comma) (by decide) rest

theorem lex_point (rest : List Char) : lex ('.' :: rest) = (lex rest).map (.mark .point :: ·) :=
  lex_lone_mark (m := .point) (by decide) rest

/-- An operation as an operand is parenthesised. -/
theorem LexesSource.operand (h : LexesSource e) : LexesOperand e := by
  intro rest apart
  cases operation : e.isOperation with
  | false =>
    have source : Apart (IsInteger e ∨ e.isOperation = true) rest :=
      ⟨apart.wordEnds, by simpa [operation] using apart.no_point⟩
    rw [operandText_of_not_isOperation operation, h rest source,
      operandTokens_of_not_isOperation operation]
  | true =>
    have inner := h (')' :: rest) (apart_cons _ (by decide) (by decide) rest)
    rw [tokens, sign_of_isOperation operation, List.nil_append] at inner
    rw [operandText_of_isOperation operation, operandTokens, sign_of_isOperation operation,
      enclosed_of_isOperation operation]
    simp only [List.cons_append, List.append_assoc, List.nil_append, lex_openParen, inner,
      lex_closeParen, Option.map_map, Function.comp_def]

theorem lex_int (i : Int) (apart : Apart True rest) :
    lex ((Constant.int i).source.toList ++ rest) =
      (lex rest).map (tokens (.constant (.int i)) ++ ·) := by
  have digits := lex_natural i.natAbs apart.wordEnds (apart.no_point trivial)
  rw [Constant.source, Numeral.text, Numeral.toList_textWith_ofInt, tokens, sign, isNegative, body,
    constantTokens]
  by_cases negative : i < 0
  · have minus := lex_lone_mark (m := .minus) (by decide) (Nat.toDigits 10 i.natAbs ++ rest)
    simp only [negative, decide_true, if_true, List.append_assoc]
    rw [show ['-'] = Mark.minus.text from rfl, minus, digits, Option.map_map]
    rfl
  · simp only [negative, decide_false, if_false, List.nil_append, digits, Bool.false_eq_true]
    rfl

theorem lex_constant {c : Constant} (notFloat : ∀ x, c ≠ .float x) : LexesSource (.constant c) := by
  intro rest apart
  have word (text : String) (h : isIdentifier text = true) :
      lex (text.toList ++ rest) = (lex rest).map (.word text :: ·) := lex_word h apart.wordEnds
  cases c with
  | none => exact word "None" (by decide)
  | bool value =>
    cases value with
    | true => exact word "True" (by decide)
    | false => exact word "False" (by decide)
  | int i => exact lex_int i ⟨apart.wordEnds, fun _ => apart.no_point (.inl ⟨i, rfl⟩)⟩
  | float x => exact absurd rfl (notFloat x)
  | str s => exact lex_str s rest

/-- An attribute after an integer constant takes the point away from it. -/
theorem lex_attribute {value : Expr} {attr : String} (h : LexesOperand value)
    (identifier : isIdentifier attr = true) : LexesSource (.attribute value attr) := by
  intro rest apart
  have word := lex_word identifier apart.wordEnds
  rw [toList_source_attribute, List.append_assoc, List.cons_append]
  by_cases integer : IsInteger value
  · obtain ⟨i, rfl⟩ := integer
    have digits := lex_decimal i.natAbs (attr.toList ++ rest)
    have text : operandText (.constant (.int i)) =
        (if i < 0 then ['-'] else []) ++ Nat.toDigits 10 i.natAbs := by
      rw [operandText_of_not_isOperation rfl, Expr.source, Constant.source, Numeral.text,
        Numeral.toList_textWith_ofInt]
    rw [text, tokens, sign, isNegative, isNegative, body, pointed]
    by_cases negative : i < 0
    · have minus := lex_lone_mark (m := .minus) (by decide)
        (Nat.toDigits 10 i.natAbs ++ '.' :: (attr.toList ++ rest))
      simp only [negative, decide_true, if_true, List.append_assoc]
      rw [show ['-'] = Mark.minus.text from rfl, minus, digits, word, Option.map_map,
        Option.map_map]
      rfl
    · simp only [negative, decide_false, if_false, List.nil_append, digits, word,
        Bool.false_eq_true, Option.map_map]
      rfl
  · have before := h ('.' :: (attr.toList ++ rest))
      ⟨wordEnds_cons (by decide) _, fun int => absurd int integer⟩
    have minus : sign (.attribute value attr) = sign value := rfl
    rw [before, lex_point, word, Option.map_map, Option.map_map, tokens, body,
      pointed_of_not_isInteger integer, minus, operandTokens]
    simp [Function.comp_def]

/-- The tokens of arguments with commas between them, up to the mark that closes them. -/
theorem lex_argumentsText (items : List Argument) {m : Mark} {close : Char}
    (closes : lex (close :: rest) = (lex rest).map (.mark m :: ·))
    (h : ∀ a ∈ items, ∀ c rest, c ∈ [',', close] →
      lex (a.source.toList ++ c :: rest) = (lex (c :: rest)).map (a.tokens ++ ·)) :
    lex (argumentsText items close rest) =
      (lex rest).map (commaTokens (items.map Argument.tokens) ++ .mark m :: ·) := by
  induction items with
  | nil => simpa [argumentsText, commaTokens] using closes
  | cons a items ih =>
    cases items with
    | nil =>
      have last := h a List.mem_cons_self close rest (by simp)
      rw [argumentsText, commaTokens]
      simp only [List.map_singleton, List.intercalate_singleton]
      rw [last, closes, Option.map_map]
      rfl
    | cons b items =>
      have first := h a List.mem_cons_self ',' (' ' :: argumentsText (b :: items) close rest)
        (by simp)
      have others := ih fun c hc => h c (List.mem_cons_of_mem _ hc)
      rw [argumentsText, List.map_cons] at first others
      rw [argumentsText, commaTokens]
      simp only [List.map_cons, List.intercalate_cons_cons, List.append_assoc, List.cons_append,
        List.nil_append]
      rw [first, lex_comma, lex_blank, others, Option.map_map, Option.map_map, commaTokens]
      simp [Function.comp_def]

theorem lex_closeBracket (rest : List Char) :
    lex (']' :: rest) = (lex rest).map (.mark .closeBracket :: ·) :=
  lex_lone_mark (m := .closeBracket) (by decide) rest

theorem lex_openBracket (rest : List Char) :
    lex ('[' :: rest) = (lex rest).map (.mark .openBracket :: ·) :=
  lex_lone_mark (m := .openBracket) (by decide) rest

/-- An expression starts with no equality sign. -/
theorem Starts.no_equality {cs : List Char} (h : Starts cs) : cs.head? ≠ some '=' := by
  intro equality
  obtain ⟨cs, rfl⟩ := List.head?_eq_some_iff.1 equality
  refine h.noKeyword ?_
  have part : isIdentifierPart '=' = false := by decide
  simp [readWord, part]

/-- The marks after an argument cut it off. -/
theorem lex_arguments {args : List Expr} {keywords : List (Keyword Expr)}
    (args_lex : ∀ a ∈ args, LexesSource a)
    (identifiers : ∀ k ∈ keywords, isIdentifier k.arg = true)
    (values_legible : ∀ k ∈ keywords, k.value.Legible)
    (values_lex : ∀ k ∈ keywords, LexesSource k.value)
    {close : Char} (closer : close ∈ closers) (a : Argument) (ha : a ∈ arguments args keywords)
    (c : Char) (rest : List Char) (hc : c ∈ [',', close]) :
    lex (a.source.toList ++ c :: rest) = (lex (c :: rest)).map (a.tokens ++ ·) := by
  have all : ∀ c ∈ ',' :: closers, isIdentifierPart c = false ∧ c ≠ '.' ∧ c ∈ delimiters :=
    List.forall_iff_forall_mem.1 (by decide)
  obtain ⟨part, point, delimiter⟩ := all c (by
    obtain rfl | rfl : c = ',' ∨ c = close := by simpa using hc
    · exact List.mem_cons_self
    · exact List.mem_cons_of_mem _ closer)
  have ends (number : Prop) : Apart number (c :: rest) := apart_cons number part point rest
  simp only [arguments, List.mem_append, List.mem_map] at ha
  obtain ⟨e, he, rfl⟩ | ⟨k, hk, rfl⟩ := ha
  · exact args_lex e he _ (ends _)
  · have word := lex_word (identifiers k hk)
      (wordEnds_cons (c := '=') (by decide) (k.value.source.toList ++ c :: rest))
    have no_equality :=
      (starts_source (values_legible k hk) (delimits_cons delimiter rest)).no_equality
    have equality : lex (Mark.assign.text ++ (k.value.source.toList ++ c :: rest)) =
        (lex (k.value.source.toList ++ c :: rest)).map (.mark .assign :: ·) :=
      lex_mark ⟨by simp, fun _ => no_equality⟩
    have text : (Argument.keyword k).source.toList ++ c :: rest =
        k.arg.toList ++ '=' :: (k.value.source.toList ++ c :: rest) := by
      simp [Argument.source, Keyword.source]
    rw [text, word, show '=' :: (k.value.source.toList ++ c :: rest) =
      Mark.assign.text ++ (k.value.source.toList ++ c :: rest) from rfl, equality,
      values_lex k hk _ (ends _), Option.map_map, Option.map_map]
    rfl

theorem tokens_apply (left right : Expr) (op : Operator) :
    tokens (op.apply left right) = operandTokens left ++ (op.tokens ++ operandTokens right) := by
  cases op <;> simp [Operator.apply, tokens, sign, isNegative, body, operandTokens]

theorem tokens_apply_append (left right : Expr) (op : Operator) (rest : List Token) :
    tokens (op.apply left right) ++ rest =
      operandTokens left ++ (op.tokens ++ (operandTokens right ++ rest)) := by
  rw [tokens_apply, List.append_assoc, List.append_assoc]

/-- Operands are parted from their operator by blanks. -/
theorem lex_apply {left right : Expr} (hl : LexesOperand left) (hr : LexesOperand right)
    (op : Operator) : LexesSource (op.apply left right) := by
  intro rest apart
  have first := hl (' ' :: (op.symbol.toList ++ ' ' :: (operandText right ++ rest)))
    (apart_cons _ (by decide) (by decide) _)
  have last := hr rest ⟨apart.wordEnds, fun _ => apart.no_point (.inr (by cases op <;> rfl))⟩
  rw [toList_source_apply, tokens_apply, List.append_assoc, List.cons_append, List.append_assoc,
    List.cons_append, first, lex_operator, last, Option.map_map, Option.map_map]
  simp [Function.comp_def]

theorem source_tuple_append_of_ne {items : List Expr} (several : ∀ item, items ≠ [item])
    (rest : List Char) : (Expr.tuple items).source.toList ++ rest =
      '(' :: argumentsText (arguments items []) ')' rest := by
  rw [Expr.source, sources_eq_map_arguments]
  · simp [toList_commaList, argumentsText]
  · exact several

theorem body_tuple_of_ne {items : List Expr} (several : ∀ item, items ≠ [item]) :
    body (.tuple items) =
      .mark .openParen :: (commaTokens (tokensIn items) ++ [.mark .closeParen]) := by
  rw [body]
  exact several

theorem lex_tuple {items : List Expr} (h : ∀ e ∈ items, LexesSource e) :
    LexesSource (.tuple items) := by
  intro rest apart
  have minus : sign (.tuple items) = [] := rfl
  rw [tokens, minus, List.nil_append]
  by_cases single : ∃ item, items = [item]
  · obtain ⟨item, rfl⟩ := single
    have inner := h item List.mem_cons_self (',' :: ')' :: rest)
      (apart_cons _ (by decide) (by decide) _)
    rw [source_tuple_singleton_append, lex_openParen, inner, lex_comma, lex_closeParen,
      Option.map_map, Option.map_map, Option.map_map, body, tokens]
    simp [Function.comp_def]
  · rw [not_exists] at single
    have inner := lex_argumentsText (arguments items []) (lex_closeParen rest)
      (lex_arguments h (by simp) (by simp) (by simp) (by decide))
    rw [source_tuple_append_of_ne single, lex_openParen, inner, Option.map_map,
      body_tuple_of_ne single, tokensIn_eq_map]
    simp [Function.comp_def]

/-- The text of a legible expression is cut into the tokens of the expression. -/
theorem lex_source {e : Expr} (h : e.Legible) : LexesSource e := by
  induction h with
  | name identifier free =>
    intro rest apart
    exact lex_word identifier apart.wordEnds
  | @«attribute» value attr _ identifier ih => exact lex_attribute ih.operand identifier
  | @call func args keywords _ _ identifiers values_legible func_ih args_ih values_ih =>
    intro rest apart
    have head := func_ih.operand ('(' :: argumentsText (arguments args keywords) ')' rest)
      (apart_cons _ (by decide) (by decide) _)
    have items := lex_argumentsText (arguments args keywords) (lex_closeParen rest)
      (lex_arguments args_ih identifiers values_legible values_ih (by decide))
    have minus : sign (.call func args keywords) = sign func := rfl
    rw [source_call_append, head, lex_openParen, items, Option.map_map, Option.map_map, tokens,
      body, tokensIn_append_keywordTokens, minus, operandTokens]
    simp [Function.comp_def]
  | constant notFloat => exact lex_constant notFloat
  | tuple _ ih => exact lex_tuple ih
  | @list items _ ih =>
    intro rest apart
    have inner := lex_argumentsText (arguments items []) (lex_closeBracket rest)
      (lex_arguments ih (by simp) (by simp) (by simp) (by decide))
    have minus : sign (.list items) = [] := rfl
    rw [source_list_append, lex_openBracket, inner, Option.map_map, tokens, minus, body,
      tokensIn_eq_map]
    simp [Function.comp_def]
  | compare _ _ left_ih right_ih => exact lex_apply left_ih.operand right_ih.operand (.compare _)
  | binOp _ _ left_ih right_ih => exact lex_apply left_ih.operand right_ih.operand (.binary _)
  | @woven w alias_identifier _ identifier =>
    intro rest apart
    have first := lex_word alias_identifier
      (wordEnds_cons (c := '.') (by decide) (w.declName.toList ++ rest))
    have text : (Expr.woven w).source.toList ++ rest =
        w.shortName.toList ++ '.' :: (w.declName.toList ++ rest) := by
      simp [Expr.source]
    rw [text, first, lex_point, lex_word identifier apart.wordEnds, Option.map_map, Option.map_map]
    rfl

end

end Loom.Source
