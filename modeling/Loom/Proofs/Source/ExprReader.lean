import Loom.Proofs.Source.Surface
import Loom.Proofs.Source.Words

/-!
# Reading expressions

A reader for the source text of expressions. It looks at most at the word or mark that comes next:
an expression is an operand or two with an operator between them, an operand is an atom with its
attributes and calls. The text of every legible expression is read as the surface of the expression,
whatever follows that does not continue it.
-/

namespace Loom.Source

open Text (isIdentifier isIdentifierPart)
open Number (Numeral)

/-! ## The reader -/

/-- An argument of a call, or an item of a list. -/
inductive Argument where
  | positional (value : Expr)
  | keyword (k : Keyword Expr)

namespace Argument

def positional? : Argument → Option Expr
  | positional e => some e
  | keyword _ => none

def keyword? : Argument → Option (Keyword Expr)
  | positional _ => none
  | keyword k => some k

def source : Argument → String
  | positional e => e.source
  | keyword k => k.source

def surface : Argument → Argument
  | positional e => positional e.surface
  | keyword k => keyword ⟨k.arg, k.value.surface⟩

end Argument

/-- The name or the constant that a word stands for. -/
def wordExpr (word : String) : Expr :=
  if word = "None" then .constant .none
  else if word = "True" then .constant (.bool true)
  else if word = "False" then .constant (.bool false)
  else .name word

-- Every reader goes on only with what is left of its text: this is why reading ends.
mutual
/-- An operand, or two with an operator between them. -/
def readExpr (cs : List Char) : Option (Expr × List Char) := do
  let (left, rest) ← readOperand cs
  match readOperator rest with
  | none => some (left, rest)
  | some (op, next) =>
    if next.length ≤ cs.length then
      let (right, rest) ← readOperand next
      some (op.apply left right, rest)
    else none
termination_by 5 * cs.length + 2

def readOperand (cs : List Char) : Option (Expr × List Char) := do
  let (e, rest) ← readAtom cs
  if rest.length ≤ cs.length then readTrailers e rest else none
termination_by 5 * cs.length + 1

/-- A constant, a name, a list, a tuple or an expression in parentheses. -/
def readAtom (cs : List Char) : Option (Expr × List Char) :=
  match cs with
  | '\'' :: cs => (readQuoted cs).map fun (s, cs) => (.str (String.ofList s), cs)
  | '(' :: ')' :: cs => some (.tuple [], cs)
  | '(' :: cs => do
    let (first, rest) ← readExpr cs
    match rest with
    | ')' :: rest => some (first, rest)
    | ',' :: ')' :: rest => some (.tuple [first], rest)
    | ',' :: ' ' :: next =>
      if next.length ≤ cs.length then
        let (items, rest) ← readArguments [')'] next
        some (.tuple (first :: items.filterMap Argument.positional?), rest)
      else none
    | _ => none
  | '[' :: ']' :: cs => some (.list [], cs)
  | '[' :: cs => do
    let (items, rest) ← readArguments [']'] cs
    some (.list (items.filterMap Argument.positional?), rest)
  | '-' :: cs => some (.constant (.int (-(readNatural cs).1)), (readNatural cs).2)
  | _ =>
    if cs.head?.any Char.isDigit then
      some (.constant (.int (readNatural cs).1), (readNatural cs).2)
    else if (readWord cs).1 = "" then none
    else some (wordExpr (readWord cs).1, (readWord cs).2)
termination_by 5 * cs.length

/-- The attributes and calls after an operand `e`. -/
def readTrailers (e : Expr) (cs : List Char) : Option (Expr × List Char) :=
  match cs with
  | '.' :: cs => readTrailers (.attribute e (readWord cs).1) (readWord cs).2
  | '(' :: ')' :: cs => readTrailers (.call e [] []) cs
  | '(' :: cs => do
    let (items, rest) ← readArguments [')'] cs
    if rest.length ≤ cs.length then
      readTrailers (.call e (items.filterMap Argument.positional?)
        (items.filterMap Argument.keyword?)) rest
    else none
  | _ => some (e, cs)
termination_by 5 * cs.length
decreasing_by
  · have := length_readWord_le cs
    simp only [List.length_cons]
    omega
  all_goals decreasing_tactic

/-- A word with an equality sign right after it is a keyword. -/
def readArgument (cs : List Char) : Option (Argument × List Char) :=
  match (readWord cs).2 with
  | '=' :: value =>
    if value.length ≤ cs.length then do
      let (e, rest) ← readExpr value
      some (.keyword ⟨(readWord cs).1, e⟩, rest)
    else none
  | _ => do
    let (e, rest) ← readExpr cs
    some (.positional e, rest)
termination_by 5 * cs.length + 3

/-- Arguments with commas between them, up to `close`. -/
def readArguments (close cs : List Char) : Option (List Argument × List Char) := do
  let (item, after) ← readArgument cs
  match after? close after with
  | some rest => some ([item], rest)
  | none => do
    let next ← after? [',', ' '] after
    if next.length < cs.length then
      let (items, rest) ← readArguments close next
      some (item :: items, rest)
    else none
termination_by 5 * cs.length + 4
end

theorem readArguments_eq_listStep (close cs : List Char) :
    readArguments close cs = listStep readArgument [',', ' '] close (readArguments close) cs := by
  rw [readArguments]
  rfl

/-! ## Texts of expressions -/

/-- The arguments of a call in the order in which they are written. -/
def arguments (args : List Expr) (keywords : List (Keyword Expr)) : List Argument :=
  args.map .positional ++ keywords.map .keyword

@[simp] theorem filterMap_positional?_arguments (args : List Expr)
    (keywords : List (Keyword Expr)) :
    (arguments args keywords).filterMap Argument.positional? = args := by
  simp [arguments, List.filterMap_map, Function.comp_def, Argument.positional?]

@[simp] theorem filterMap_keyword?_arguments (args : List Expr) (keywords : List (Keyword Expr)) :
    (arguments args keywords).filterMap Argument.keyword? = keywords := by
  simp [arguments, List.filterMap_map, Function.comp_def, Argument.keyword?]

theorem map_surface_arguments (args : List Expr) (keywords : List (Keyword Expr)) :
    (arguments args keywords).map Argument.surface =
      arguments (args.map Expr.surface) (keywords.map fun k => ⟨k.arg, k.value.surface⟩) := by
  simp [arguments, Argument.surface, Function.comp_def]

theorem sources_eq_map (es : List Expr) : Expr.sources es = es.map Expr.source := by
  induction es with
  | nil => rfl
  | cons e es ih => simp [Expr.sources, ih]

theorem keywordSources_eq_map (ks : List (Keyword Expr)) :
    Expr.keywordSources ks = ks.map Keyword.source := by
  induction ks with
  | nil => rfl
  | cons k ks ih => simp [Expr.keywordSources, Keyword.source, ih]

theorem sources_append_keywordSources (args : List Expr) (keywords : List (Keyword Expr)) :
    Expr.sources args ++ Expr.keywordSources keywords =
      (arguments args keywords).map Argument.source := by
  simp [sources_eq_map, keywordSources_eq_map, arguments, Argument.source, Function.comp_def]

/-- The text of arguments with what closes it. -/
def argumentsText (items : List Argument) (close : Char) (rest : List Char) : List Char :=
  [',', ' '].intercalate (items.map fun a => a.source.toList) ++ close :: rest

/-- The text of an expression as an operand. -/
def operandText (e : Expr) : List Char := (e.operand e.source).toList

theorem operandText_of_not_isOperation {e : Expr} (h : e.isOperation = false) :
    operandText e = e.source.toList := by
  simp [operandText, Expr.operand, h]

theorem operandText_of_isOperation {e : Expr} (h : e.isOperation = true) :
    operandText e = '(' :: (e.source.toList ++ [')']) := by
  simp [operandText, Expr.operand, h]

theorem toList_source_attribute (value : Expr) (attr : String) :
    (Expr.attribute value attr).source.toList = operandText value ++ '.' :: attr.toList := by
  simp [Expr.source, operandText]

theorem sources_eq_map_arguments (items : List Expr) :
    Expr.sources items = (arguments items []).map Argument.source := by
  simpa [Expr.keywordSources] using sources_append_keywordSources items []

theorem toList_commaList {α : Type} (items : List α) (text : α → String) :
    (Expr.commaList (items.map text)).toList =
      [',', ' '].intercalate (items.map fun a => (text a).toList) := by
  simp [Expr.commaList, Function.comp_def]

theorem source_call_append (func : Expr) (args : List Expr) (keywords : List (Keyword Expr))
    (rest : List Char) :
    (Expr.call func args keywords).source.toList ++ rest =
      operandText func ++ '(' :: argumentsText (arguments args keywords) ')' rest := by
  rw [Expr.source, sources_append_keywordSources]
  simp [toList_commaList, operandText, argumentsText]

theorem source_list_append (items : List Expr) (rest : List Char) :
    (Expr.list items).source.toList ++ rest =
      '[' :: argumentsText (arguments items []) ']' rest := by
  rw [Expr.source, sources_eq_map_arguments]
  simp [toList_commaList, argumentsText]

theorem source_tuple_singleton_append (item : Expr) (rest : List Char) :
    (Expr.tuple [item]).source.toList ++ rest =
      '(' :: (item.source.toList ++ ',' :: ')' :: rest) := by
  simp [Expr.source]

theorem source_tuple_append (first second : Expr) (items : List Expr) (rest : List Char) :
    (Expr.tuple (first :: second :: items)).source.toList ++ rest = '(' :: (first.source.toList ++
      ',' :: ' ' :: argumentsText (arguments (second :: items) []) ')' rest) := by
  rw [Expr.source, sources_eq_map_arguments]
  · simp [arguments, Expr.commaList, argumentsText, Argument.source, Function.comp_def]
  · simp

theorem toList_source_apply (left right : Expr) (op : Operator) :
    (op.apply left right).source.toList =
      operandText left ++ ' ' :: (op.symbol.toList ++ ' ' :: operandText right) := by
  cases op <;> simp [Operator.apply, Operator.symbol, Expr.source, operandText]

/-! ## Where an expression starts and ends -/

/-- The marks that an expression can start with. -/
def openers : List Char := ['\'', '(', '[', '-']

/-- Marks that no expression starts with: they close something or stand in front of a line. -/
def nonStarters : List Char := [' ', ')', ']', '@', '\n']

/-- The marks that can follow an operand. -/
def delimiters : List Char := ['.', '(', ' ', ',', ')', ']', ':', '\n']

/-- The marks that can follow an expression. -/
def terminators : List Char := [',', ')', ']', ':', '\n']

/-- The marks that can follow a list of arguments. -/
def closers : List Char := [')', ']', '\n']

/-- An expression starts with no reserved word but a constant, with no keyword, and with none of the
marks that cannot start it. -/
structure Starts (cs : List Char) : Prop where
  word : (readWord cs).1 ∈ reservedWords → (readWord cs).1 ∈ constantWords
  noKeyword : (readWord cs).2.head? ≠ some '='
  first : ∀ c ∈ nonStarters, cs.head? ≠ some c

/-- What follows does not continue an identifier and makes it no keyword. -/
def Delimits (rest : List Char) : Prop := ∀ c ∈ rest.head?, isIdentifierPart c = false ∧ c ≠ '='

theorem Delimits.wordEnds {rest : List Char} (h : Delimits rest) : WordEnds rest :=
  fun c hc => (h c hc).1

theorem delimits_cons {c : Char} (h : c ∈ delimiters) (cs : List Char) : Delimits (c :: cs) := by
  have all : ∀ c ∈ delimiters, isIdentifierPart c = false ∧ c ≠ '=' :=
    List.forall_iff_forall_mem.1 (by decide)
  rintro _ ⟨⟩
  exact all c h

theorem starts_of_mark {c : Char} (h : c ∈ openers) (cs : List Char) : Starts (c :: cs) := by
  have all : ∀ c ∈ openers, isIdentifierPart c = false ∧ c ≠ '=' ∧ c ∉ nonStarters :=
    List.forall_iff_forall_mem.1 (by decide)
  obtain ⟨part, noKeyword, first⟩ := all c h
  have word : readWord (c :: cs) = ("", c :: cs) := by simp [readWord, part]
  refine ⟨?_, ?_, ?_⟩
  · have free : "" ∉ reservedWords := by decide
    simp [word, free]
  · simpa [word] using noKeyword
  · rintro d hd ⟨⟩
    exact first hd

theorem starts_of_word {word rest : List Char} (nonempty : word ≠ [])
    (parts : ∀ c ∈ word, isIdentifierPart c = true)
    (free : String.ofList word ∈ reservedWords → String.ofList word ∈ constantWords)
    (delimits : Delimits rest) : Starts (word ++ rest) := by
  have read := readWord_append parts delimits.wordEnds
  refine ⟨by rwa [read], ?_, ?_⟩
  · rw [read]
    exact fun h => (delimits '=' h).2 rfl
  · have all : ∀ c ∈ nonStarters, isIdentifierPart c = false :=
      List.forall_iff_forall_mem.1 (by decide)
    exact fun c hc => head?_append_ne nonempty parts (all c hc)

theorem starts_of_identifier {id : String} {rest : List Char} (identifier : isIdentifier id = true)
    (free : id ∉ reservedWords) (delimits : Delimits rest) : Starts (id.toList ++ rest) :=
  starts_of_word (ne_nil_of_isIdentifier identifier)
    (fun _ hc => isIdentifierPart_of_mem identifier hc) (by simp [free]) delimits

/-- No reserved word starts with a digit. -/
theorem starts_toDigits (n : Nat) {rest : List Char} (delimits : Delimits rest) :
    Starts (Nat.toDigits 10 n ++ rest) := by
  have letters : ∀ word ∈ reservedWords, word.toList.head?.any Char.isDigit = false :=
    List.forall_iff_forall_mem.1 (by decide)
  refine starts_of_word Nat.toDigits_ne_nil
    (fun c hc => isIdentifierPart_of_isDigit (Number.isDigit_of_mem_toDigits hc))
    (fun reserved => ?_) delimits
  obtain ⟨c, cs, chars, digit⟩ := Number.exists_cons_toDigits n
  simpa [chars, digit] using letters _ reserved

theorem starts_constant {c : Constant} (notFloat : ∀ x, c ≠ .float x) {rest : List Char}
    (delimits : Delimits rest) : Starts (c.source.toList ++ rest) := by
  have word : ∀ {text : String}, isIdentifier text = true → text ∈ constantWords →
      Starts (text.toList ++ rest) := fun identifier constant =>
    starts_of_word (ne_nil_of_isIdentifier identifier)
      (fun _ => isIdentifierPart_of_mem identifier) (fun _ => by simpa using constant) delimits
  cases c with
  | none => exact word (by decide) (by decide)
  | bool b => cases b <;> exact word (by decide) (by decide)
  | int i =>
    rw [Constant.source, Numeral.text, Numeral.toList_textWith_ofInt]
    split
    · exact starts_of_mark (by decide) _
    · exact starts_toDigits _ delimits
  | float x => exact absurd rfl (notFloat x)
  | str s =>
    have quote : (Constant.str s).source.toList =
        '\'' :: (s.toList.flatMap escapeChar ++ ['\'']) := by simp [Constant.source]
    rw [quote]
    exact starts_of_mark (by decide) _

theorem starts_operandText {e : Expr} (h : e.Legible) {rest : List Char}
    (delimits : Delimits rest) : Starts (operandText e ++ rest) := by
  induction h generalizing rest with
  | name identifier free =>
    rw [operandText_of_not_isOperation rfl, Expr.source]
    exact starts_of_identifier identifier free delimits
  | @«attribute» value attr _ _ ih =>
    rw [operandText_of_not_isOperation rfl, toList_source_attribute, List.append_assoc]
    exact ih (delimits_cons (by decide) _)
  | call _ _ _ _ ih =>
    rw [operandText_of_not_isOperation rfl, source_call_append]
    exact ih (delimits_cons (by decide) _)
  | constant notFloat =>
    rw [operandText_of_not_isOperation rfl, Expr.source]
    exact starts_constant notFloat delimits
  | @tuple items _ _ =>
    rw [operandText_of_not_isOperation rfl]
    match items with
    | [] => exact starts_of_mark (c := '(') (by decide) _
    | [item] =>
      rw [source_tuple_singleton_append]
      exact starts_of_mark (by decide) _
    | first :: second :: items =>
      rw [source_tuple_append]
      exact starts_of_mark (by decide) _
  | list _ _ =>
    rw [operandText_of_not_isOperation rfl, source_list_append]
    exact starts_of_mark (by decide) _
  | compare _ _ _ _ =>
    rw [operandText_of_isOperation rfl]
    exact starts_of_mark (by decide) _
  | binOp _ _ _ _ =>
    rw [operandText_of_isOperation rfl]
    exact starts_of_mark (by decide) _
  | woven identifier free _ =>
    rw [operandText_of_not_isOperation rfl, Expr.source]
    simp only [String.toList_append, List.append_assoc]
    exact starts_of_identifier identifier free (delimits_cons (by decide) _)

theorem starts_source {e : Expr} (h : e.Legible) {rest : List Char} (delimits : Delimits rest) :
    Starts (e.source.toList ++ rest) := by
  have apply : ∀ (left right : Expr) (op : Operator), left.Legible →
      Starts ((op.apply left right).source.toList ++ rest) := by
    intro left right op legible
    rw [toList_source_apply, List.append_assoc]
    exact starts_operandText legible (delimits_cons (by decide) _)
  cases operation : e.isOperation with
  | false => simpa [operandText_of_not_isOperation operation] using starts_operandText h delimits
  | true =>
    cases h with
    | compare left _ => exact apply _ _ (.compare _) left
    | binOp left _ => exact apply _ _ (.binary _) left
    | _ => simp [Expr.isOperation] at operation

/-- What follows belongs to no expression in front of it. -/
structure Ends (rest : List Char) : Prop where
  delimits : Delimits rest
  noTrailer : ∀ c ∈ rest.head?, c ≠ '.' ∧ c ≠ '('
  noOperator : readOperator rest = none

theorem ends_cons {c : Char} (h : c ∈ terminators) (cs : List Char) : Ends (c :: cs) := by
  have all : ∀ c ∈ terminators, c ∈ delimiters ∧ (c ≠ '.' ∧ c ≠ '(') ∧ c ≠ ' ' :=
    List.forall_iff_forall_mem.1 (by decide)
  obtain ⟨delimiter, trailer, blank⟩ := all c h
  refine ⟨delimits_cons delimiter cs, ?_, readOperator_of_ne cs blank⟩
  rintro _ ⟨⟩
  exact trailer

theorem ends_assign (cs : List Char) : Ends (' ' :: '=' :: ' ' :: cs) := by
  refine ⟨delimits_cons (by decide) _, ?_, ?_⟩
  · rintro _ ⟨⟩
    decide
  · simp [readOperator, Operator.all, Operator.symbol, CmpOp.symbol, BinOp.symbol, after?]

/-! ## Reading back -/

theorem readTrailers_of_noTrailer (e : Expr) {rest : List Char}
    (h : ∀ c ∈ rest.head?, c ≠ '.' ∧ c ≠ '(') : readTrailers e rest = some (e, rest) := by
  rw [readTrailers.eq_def]
  split <;> simp_all

theorem readTrailers_attribute (e : Expr) {attr : String} (identifier : isIdentifier attr = true)
    {rest : List Char} (ends : WordEnds rest) :
    readTrailers e ('.' :: (attr.toList ++ rest)) = readTrailers (.attribute e attr) rest := by
  rw [readTrailers]
  simp [readWord_identifier identifier ends]

theorem readTrailers_call (e : Expr) {cs rest : List Char} {items : List Argument}
    (first : cs.head? ≠ some ')') (read : readArguments [')'] cs = some (items, rest))
    (left : rest.length ≤ cs.length) :
    readTrailers e ('(' :: cs) = readTrailers (.call e (items.filterMap Argument.positional?)
      (items.filterMap Argument.keyword?)) rest := by
  rw [readTrailers.eq_def]
  split <;> simp_all

theorem readAtom_parenthesised {cs rest : List Char} {e : Expr} (first : cs.head? ≠ some ')')
    (read : readExpr cs = some (e, ')' :: rest)) : readAtom ('(' :: cs) = some (e, rest) := by
  rw [readAtom.eq_def]
  split <;> simp_all

theorem readAtom_tuple_singleton {cs rest : List Char} {e : Expr} (first : cs.head? ≠ some ')')
    (read : readExpr cs = some (e, ',' :: ')' :: rest)) :
    readAtom ('(' :: cs) = some (.tuple [e], rest) := by
  rw [readAtom.eq_def]
  split <;> simp_all

theorem readAtom_tuple {cs cs' rest : List Char} {e : Expr} {items : List Argument}
    (first : cs.head? ≠ some ')') (read : readExpr cs = some (e, ',' :: ' ' :: cs'))
    (more : readArguments [')'] cs' = some (items, rest)) (left : cs'.length ≤ cs.length) :
    readAtom ('(' :: cs) = some (.tuple (e :: items.filterMap Argument.positional?), rest) := by
  rw [readAtom.eq_def]
  split <;> simp_all

theorem readAtom_list {cs rest : List Char} {items : List Argument} (first : cs.head? ≠ some ']')
    (read : readArguments [']'] cs = some (items, rest)) :
    readAtom ('[' :: cs) = some (.list (items.filterMap Argument.positional?), rest) := by
  rw [readAtom.eq_def]
  split <;> simp_all

/-- What starts with no mark of its own is a number or a word. -/
theorem readAtom_word {c : Char} {cs : List Char} (h : c ∉ openers) :
    readAtom (c :: cs) =
      if c.isDigit then
        some (.constant (.int (readNatural (c :: cs)).1), (readNatural (c :: cs)).2)
      else if (readWord (c :: cs)).1 = "" then none
      else some (wordExpr (readWord (c :: cs)).1, (readWord (c :: cs)).2) := by
  rw [readAtom.eq_def]
  split
  iterate 6 simp_all [openers]
  rfl

theorem readOperand_of_atom {cs rest : List Char} {e : Expr} (atom : readAtom cs = some (e, rest))
    (left : rest.length ≤ cs.length) : readOperand cs = readTrailers e rest := by
  rw [readOperand, atom]
  simp [left]

/-- An operand with nothing after it that goes on. -/
theorem readExpr_of_operand {cs rest : List Char} {e : Expr}
    (operand : readOperand cs = readTrailers e rest) (ends : Ends rest) :
    readExpr cs = some (e, rest) := by
  rw [readExpr, operand, readTrailers_of_noTrailer e ends.noTrailer]
  simp [ends.noOperator]

/-- The text of the expression is read as its surface, as an operand and on its own. -/
structure ReadsBack (e : Expr) : Prop where
  operand : ∀ rest, WordEnds rest →
    readOperand (operandText e ++ rest) = readTrailers e.surface rest
  expr : ∀ rest, Ends rest → readExpr (e.source.toList ++ rest) = some (e.surface, rest)

namespace ReadsBack

theorem of_operand {e : Expr} (notOperation : e.isOperation = false)
    (operand : ∀ rest, WordEnds rest →
      readOperand (e.source.toList ++ rest) = readTrailers e.surface rest) : ReadsBack e where
  operand := by rwa [operandText_of_not_isOperation notOperation]
  expr rest ends := readExpr_of_operand (operand rest ends.delimits.wordEnds) ends

/-- An atom is followed by whatever trailers follow. -/
theorem of_atom {e : Expr} (notOperation : e.isOperation = false)
    (atom : ∀ rest, WordEnds rest →
      readAtom (e.source.toList ++ rest) = some (e.surface, rest)) : ReadsBack e :=
  of_operand notOperation fun rest ends => readOperand_of_atom (atom rest ends) (by simp)

/-- The first item of a tuple. -/
theorem before_comma {e : Expr} (h : ReadsBack e) (legible : e.Legible) (rest : List Char) :
    (e.source.toList ++ ',' :: rest).head? ≠ some ')' ∧
      readExpr (e.source.toList ++ ',' :: rest) = some (e.surface, ',' :: rest) :=
  ⟨(starts_source legible (delimits_cons (by decide) rest)).first ')' (by decide),
    h.expr _ (ends_cons (by decide) rest)⟩

/-- An operation is read when its operands are. -/
theorem of_operation {left right : Expr} (hl : ReadsBack left) (hr : ReadsBack right)
    (left_legible : left.Legible) (right_legible : right.Legible) (op : Operator) :
    ReadsBack (op.apply left right) := by
  have surface : (op.apply left right).surface = op.apply left.surface right.surface := by
    cases op <;> simp [Operator.apply, Expr.surface]
  have operation : (op.apply left right).isOperation = true := by cases op <;> rfl
  have expr : ∀ rest, Ends rest → readExpr ((op.apply left right).source.toList ++ rest) =
      some ((op.apply left right).surface, rest) := by
    intro rest ends
    have right_start := starts_operandText right_legible ends.delimits
    have notNot : (readWord (operandText right ++ rest)).1 ≠ "not" := fun h =>
      absurd (right_start.word (by rw [h]; decide)) (by rw [h]; decide)
    have first := hl.operand (' ' :: (op.symbol.toList ++ ' ' :: (operandText right ++ rest)))
      (wordEnds_cons (by decide) _)
    rw [readTrailers_of_noTrailer _ (by rintro _ ⟨⟩; decide)] at first
    have second := hr.operand rest ends.delimits.wordEnds
    rw [readTrailers_of_noTrailer _ ends.noTrailer] at second
    rw [readExpr, toList_source_apply, surface]
    simp only [List.append_assoc, List.cons_append, first, Option.bind_eq_bind, Option.bind_some,
      readOperator_symbol op notNot, second]
    rw [if_pos (by simp; omega)]
  refine ⟨fun rest _ => ?_, expr⟩
  -- in parentheses the operation is an atom
  have legible : (op.apply left right).Legible := by
    cases op with
    | compare op => exact .compare left_legible right_legible
    | binary op => exact .binOp left_legible right_legible
  have start := starts_source legible (delimits_cons (c := ')') (by decide) rest)
  have atom := readAtom_parenthesised (start.first ')' (by decide))
    (expr (')' :: rest) (ends_cons (by decide) rest))
  have text : operandText (op.apply left right) ++ rest =
      '(' :: ((op.apply left right).source.toList ++ ')' :: rest) := by
    simp [operandText_of_isOperation operation]
  rw [text]
  exact readOperand_of_atom atom (by simp; omega)

end ReadsBack

/-- The text of the argument is read as its surface, and is not taken for the end of a list. -/
structure Argument.ReadsBack (a : Argument) : Prop where
  first : ∀ rest, Delimits rest → ∀ c ∈ closers, (a.source.toList ++ rest).head? ≠ some c
  read : ∀ rest, Ends rest → readArgument (a.source.toList ++ rest) = some (a.surface, rest)

theorem readsBack_positional {e : Expr} (h : ReadsBack e) (legible : e.Legible) :
    (Argument.positional e).ReadsBack where
  first rest delimits c hc := by
    have all : ∀ c ∈ closers, c ∈ nonStarters :=
      List.forall_iff_forall_mem.1 (by decide)
    exact (starts_source legible delimits).first c (all c hc)
  read rest ends := by
    have start := starts_source legible ends.delimits
    simp only [Argument.source, Argument.surface]
    rw [readArgument.eq_def]
    split
    · next keyword => exact absurd (by rw [keyword]; rfl) start.noKeyword
    · simp [h.expr rest ends]

theorem readsBack_keyword {k : Keyword Expr} (identifier : isIdentifier k.arg = true)
    (h : ReadsBack k.value) : (Argument.keyword k).ReadsBack where
  first rest delimits c hc := by
    have all : ∀ c ∈ closers, isIdentifierPart c = false :=
      List.forall_iff_forall_mem.1 (by decide)
    simp only [Argument.source, Keyword.source, String.toList_append, List.append_assoc]
    exact head?_append_ne (ne_nil_of_isIdentifier identifier)
      (fun _ => isIdentifierPart_of_mem identifier) (all c hc)
  read rest ends := by
    have word := readWord_identifier identifier
      (wordEnds_cons (c := '=') (by decide) (k.value.source.toList ++ rest))
    have text : (Argument.keyword k).source.toList ++ rest =
        k.arg.toList ++ '=' :: (k.value.source.toList ++ rest) := by
      simp [Argument.source, Keyword.source]
    rw [text, readArgument, word]
    simp only [List.length_append, List.length_cons]
    rw [if_pos (by omega), h.expr rest ends]
    rfl

/-- Arguments are read back up to the mark that closes them, which they do not start with. -/
theorem readArguments_argumentsText {items : List Argument} (nonempty : items ≠ [])
    (h : ∀ a ∈ items, a.ReadsBack) {close : Char} (hclose : close ∈ closers)
    (rest : List Char) :
    (argumentsText items close rest).head? ≠ some close ∧
      readArguments [close] (argumentsText items close rest) =
        some (items.map Argument.surface, rest) := by
  have all : ∀ c ∈ closers, c ≠ ',' ∧ c ∈ terminators ∧ c ∈ delimiters :=
    List.forall_iff_forall_mem.1 (by decide)
  obtain ⟨apart, mark, delimiter⟩ := all close hclose
  obtain ⟨a, as, rfl⟩ := List.exists_cons_of_ne_nil nonempty
  have first := (h a (List.mem_cons_self ..)).first
  constructor
  · cases as with
    | nil => simpa [argumentsText] using first _ (delimits_cons delimiter rest) close hclose
    | cons b as =>
      rw [argumentsText, List.map_cons, List.map_cons, List.intercalate_cons_cons,
        List.append_assoc, List.append_assoc]
      exact first _ (delimits_cons (by decide) _) close hclose
  · exact readsList (readArguments_eq_listStep [close]) (by simp) (by simp [after?, apart])
      Argument.source Argument.surface rest a as
      (fun b hb cs => (h b hb).read _ (ends_cons (by decide) _))
      (fun b hb => (h b hb).read _ (ends_cons mark _))

/-! ## Atoms -/

theorem not_mem_openers {c : Char} (h : isIdentifierPart c = true) : c ∉ openers := by
  have all : ∀ c ∈ openers, isIdentifierPart c = false :=
    List.forall_iff_forall_mem.1 (by decide)
  intro mark
  simp [all c mark] at h

/-- No identifier starts with a digit. -/
theorem isDigit_of_isIdentifierStart {c : Char} (h : Text.isIdentifierStart c = true) :
    c.isDigit = false := by
  rw [← Bool.not_eq_true]
  intro digit
  have range := digit
  simp only [Char.isDigit, Bool.and_eq_true, decide_eq_true_eq, ge_iff_le,
    UInt32.le_iff_toNat_le] at range
  have all : ∀ n ≤ 57, 48 ≤ n → Text.isIdentifierStart (Char.ofNat n) = false := by decide
  have := all c.toNat range.2 range.1
  simp [h] at this

theorem readAtom_identifier {id : String} (identifier : isIdentifier id = true)
    {rest : List Char} (ends : WordEnds rest) :
    readAtom (id.toList ++ rest) = some (wordExpr id, rest) := by
  have word := readWord_identifier identifier ends
  have nonempty : id ≠ "" := by
    rintro rfl
    exact ne_nil_of_isIdentifier identifier rfl
  unfold isIdentifier at identifier
  cases chars : id.toList with
  | nil => simp [chars, Text.isIdentifierChars] at identifier
  | cons c cs =>
    have start : Text.isIdentifierStart c = true := by
      simp only [chars, Text.isIdentifierChars, Bool.and_eq_true] at identifier
      exact identifier.1
    have part : isIdentifierPart c = true :=
      isIdentifierPart_of_mem (s := id) identifier (by simp [chars])
    rw [chars, List.cons_append] at word
    rw [List.cons_append, readAtom_word (not_mem_openers part), word,
      isDigit_of_isIdentifierStart start]
    simp [nonempty]

theorem wordExpr_of_free {id : String} (h : id ∉ reservedWords) : wordExpr id = .name id := by
  have notNone : id ≠ "None" := by rintro rfl; exact h (by decide)
  have notTrue : id ≠ "True" := by rintro rfl; exact h (by decide)
  have notFalse : id ≠ "False" := by rintro rfl; exact h (by decide)
  rw [wordExpr, if_neg notNone, if_neg notTrue, if_neg notFalse]

theorem readAtom_toDigits (n : Nat) {rest : List Char} (ends : WordEnds rest) :
    readAtom (Nat.toDigits 10 n ++ rest) = some (.constant (.int n), rest) := by
  have read := readNatural_toDigits n ends
  obtain ⟨c, cs, chars, digit⟩ := Number.exists_cons_toDigits n
  rw [chars, List.cons_append] at read ⊢
  rw [readAtom_word (not_mem_openers (isIdentifierPart_of_isDigit digit)), read]
  simp [digit]

theorem readAtom_constant {c : Constant} (notFloat : ∀ x, c ≠ .float x) {rest : List Char}
    (ends : WordEnds rest) : readAtom (c.source.toList ++ rest) = some (.constant c, rest) := by
  cases c with
  | none => exact readAtom_identifier (by decide : isIdentifier "None" = true) ends
  | bool b =>
    cases b with
    | true => exact readAtom_identifier (by decide : isIdentifier "True" = true) ends
    | false => exact readAtom_identifier (by decide : isIdentifier "False" = true) ends
  | int i =>
    rw [Constant.source, Numeral.text, Numeral.toList_textWith_ofInt]
    split
    · have negative : -(i.natAbs : Int) = i := by omega
      rw [List.append_assoc, List.singleton_append, readAtom, readNatural_toDigits _ ends, negative]
    · have natural : (i.natAbs : Int) = i := by omega
      rw [List.nil_append, readAtom_toDigits _ ends, natural]
  | float x => exact absurd rfl (notFloat x)
  | str s => simp [Constant.source, readAtom, readQuoted_flatMap_escapeChar, Expr.str]

/-! ## The round trip -/

theorem readsBack_arguments {args : List Expr} {keywords : List (Keyword Expr)}
    (args_legible : ∀ a ∈ args, a.Legible) (args_read : ∀ a ∈ args, ReadsBack a)
    (identifiers : ∀ k ∈ keywords, isIdentifier k.arg = true)
    (values_read : ∀ k ∈ keywords, ReadsBack k.value) :
    ∀ a ∈ arguments args keywords, a.ReadsBack := by
  intro a ha
  simp only [arguments, List.mem_append, List.mem_map] at ha
  rcases ha with ⟨e, he, rfl⟩ | ⟨k, hk, rfl⟩
  · exact readsBack_positional (args_read e he) (args_legible e he)
  · exact readsBack_keyword (identifiers k hk) (values_read k hk)

/-- The items of a list or a tuple are arguments without keywords. -/
theorem readsBack_items {items : List Expr} (legible : ∀ e ∈ items, e.Legible)
    (read : ∀ e ∈ items, ReadsBack e) : ∀ a ∈ arguments items [], a.ReadsBack :=
  readsBack_arguments legible read (by simp) (by simp)

theorem readTrailers_arguments (e : Expr) {args : List Expr} {keywords : List (Keyword Expr)}
    (h : ∀ a ∈ arguments args keywords, a.ReadsBack) (rest : List Char) :
    readTrailers e ('(' :: argumentsText (arguments args keywords) ')' rest) =
      readTrailers (.call e (args.map Expr.surface)
        (keywords.map fun k => ⟨k.arg, k.value.surface⟩)) rest := by
  by_cases empty : arguments args keywords = []
  · obtain ⟨rfl, rfl⟩ : args = [] ∧ keywords = [] := by simpa [arguments] using empty
    simp [argumentsText, arguments, readTrailers]
  · obtain ⟨first, read⟩ := readArguments_argumentsText empty h (by decide : ')' ∈ _) rest
    have left : rest.length ≤ (argumentsText (arguments args keywords) ')' rest).length := by
      simp only [argumentsText, List.length_append, List.length_cons]
      omega
    rw [readTrailers_call e first read left, map_surface_arguments, filterMap_positional?_arguments,
      filterMap_keyword?_arguments]

theorem readAtom_items {items : List Expr} (h : ∀ a ∈ arguments items [], a.ReadsBack)
    (rest : List Char) :
    readAtom ('[' :: argumentsText (arguments items []) ']' rest) =
      some (.list (items.map Expr.surface), rest) := by
  by_cases empty : arguments items [] = []
  · obtain rfl : items = [] := by simpa [arguments] using empty
    simp [argumentsText, arguments, readAtom]
  · obtain ⟨first, read⟩ := readArguments_argumentsText empty h (by decide : ']' ∈ _) rest
    rw [readAtom_list first read, map_surface_arguments, filterMap_positional?_arguments]

theorem readAtom_tuple_source {items : List Expr} (legible : ∀ e ∈ items, e.Legible)
    (read : ∀ e ∈ items, ReadsBack e) (rest : List Char) :
    readAtom ((Expr.tuple items).source.toList ++ rest) =
      some (.tuple (items.map Expr.surface), rest) := by
  match items with
  | [] => simp [Expr.source, Expr.sources, Expr.commaList, readAtom]
  | [item] =>
    obtain ⟨start, first⟩ := (read item (List.mem_cons_self ..)).before_comma
      (legible item (List.mem_cons_self ..)) (')' :: rest)
    rw [source_tuple_singleton_append, readAtom_tuple_singleton start first]
    rfl
  | item :: second :: items =>
    have items_read : ∀ a ∈ arguments (second :: items) [], a.ReadsBack := readsBack_items
      (fun e he => legible e (List.mem_cons_of_mem _ he))
      (fun e he => read e (List.mem_cons_of_mem _ he))
    have more := (readArguments_argumentsText (by simp [arguments]) items_read
      (by decide : ')' ∈ _) rest).2
    obtain ⟨start, first⟩ := (read item (List.mem_cons_self ..)).before_comma
      (legible item (List.mem_cons_self ..)) (' ' :: argumentsText _ ')' rest)
    rw [source_tuple_append, readAtom_tuple start first more (by simp; omega),
      map_surface_arguments, filterMap_positional?_arguments]
    rfl

theorem readsBack {e : Expr} (h : e.Legible) : ReadsBack e := by
  induction h with
  | name identifier free =>
    refine .of_atom rfl fun rest ends => ?_
    rw [Expr.source, readAtom_identifier identifier ends, wordExpr_of_free free, Expr.surface]
  | @«attribute» value attr _ identifier ih =>
    refine .of_operand rfl fun rest ends => ?_
    rw [toList_source_attribute, List.append_assoc, List.cons_append,
      ih.operand _ (wordEnds_cons (by decide) _),
      readTrailers_attribute _ identifier ends, Expr.surface]
  | @call func args keywords _ args_legible identifiers _ func_ih args_ih values_ih =>
    refine .of_operand rfl fun rest _ => ?_
    have items := readsBack_arguments args_legible args_ih identifiers values_ih
    rw [source_call_append, func_ih.operand _ (wordEnds_cons (by decide) _),
      readTrailers_arguments _ items]
    simp [Expr.surface]
  | constant notFloat =>
    refine .of_atom rfl fun rest ends => ?_
    rw [Expr.source, readAtom_constant notFloat ends, Expr.surface]
  | @tuple items items_legible ih =>
    refine .of_atom rfl fun rest _ => ?_
    rw [readAtom_tuple_source items_legible ih, Expr.surface, Expr.surfaces_eq_map]
  | @list items items_legible ih =>
    refine .of_atom rfl fun rest _ => ?_
    rw [source_list_append, readAtom_items (readsBack_items items_legible ih)]
    simp [Expr.surface]
  | compare left_legible right_legible left_ih right_ih =>
    exact .of_operation left_ih right_ih left_legible right_legible (.compare _)
  | binOp left_legible right_legible left_ih right_ih =>
    exact .of_operation left_ih right_ih left_legible right_legible (.binary _)
  | @woven w alias_identifier free identifier =>
    refine .of_operand rfl fun rest ends => ?_
    have atom := readAtom_identifier alias_identifier
      (wordEnds_cons (c := '.') (by decide) (w.declName.toList ++ rest))
    rw [wordExpr_of_free free] at atom
    simp [Expr.source, Expr.surface, readOperand, atom, readTrailers_attribute _ identifier ends]

end Loom.Source
