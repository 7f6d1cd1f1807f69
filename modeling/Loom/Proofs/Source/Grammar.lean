import Loom.Proofs.Source.Tokens

/-!
# The grammar of expressions

Python's grammar of the expressions that a tree can hold, as a reader that goes down its levels:
comparisons, sums, terms, signs, powers, and operands with their attributes and calls. A power binds
more tightly than a sign on its left and less tightly than one on its right, sums and terms group
from the left, and comparisons form chains.
-/

namespace Loom.Grammar

open Source (Token Mark)

/-- What an expression says to Python. Integers have no sign of their own. -/
inductive Reading where
  | name (id : String)
  | constant (value : Constant)
  | attribute (value : Reading) (attr : String)
  | call (func : Reading) (args : List Reading) (keywords : List (Keyword Reading))
  | negative (value : Reading)
  | tuple (items : List Reading)
  | list (items : List Reading)
  /-- A chain: each operator with what stands after it. -/
  | compare (left : Reading) (others : List (CmpOp × Reading))
  | binOp (left : Reading) (op : BinOp) (right : Reading)

/-! ## Words and operators -/

/-- A word that stands for a constant, or a name if it is not reserved. -/
def wordReading? (word : String) : Option Reading :=
  if word = "None" then some (.constant .none)
  else if word = "True" then some (.constant (.bool true))
  else if word = "False" then some (.constant (.bool false))
  else if word ∈ reservedWords then none
  else some (.name word)

def readComparator : List Token → Option (CmpOp × List Token)
  | .mark .eq :: ts => some (.eq, ts)
  | .mark .notEq :: ts => some (.notEq, ts)
  | .mark .lt :: ts => some (.lt, ts)
  | .mark .ltE :: ts => some (.ltE, ts)
  | .mark .gt :: ts => some (.gt, ts)
  | .mark .gtE :: ts => some (.gtE, ts)
  | .word "in" :: ts => some (.isIn, ts)
  | .word "not" :: .word "in" :: ts => some (.notIn, ts)
  | .word "is" :: .word "not" :: ts => some (.isNot, ts)
  | .word "is" :: ts => some (.is, ts)
  | _ => none

/-- The levels whose operators group from the left. -/
inductive Level where
  | sum
  | term
  deriving DecidableEq

def Level.rank : Level → Nat
  | sum => 2
  | term => 0

/-- The operators of a level. -/
def Level.op? : Level → Token → Option BinOp
  | sum, .mark .plus => some .add
  | sum, .mark .minus => some .sub
  | term, .mark .star => some .mult
  | term, .mark .slash => some .div
  | term, .mark .percent => some .mod
  | _, _ => none

/-! ## Arguments -/

/-- An argument of a call or an item of a list, with its keyword. -/
abbrev Argument := Option String × Reading

/-- The values if none has a keyword. -/
def positional? (items : List Argument) : Option (List Reading) :=
  items.mapM fun
    | (none, value) => some value
    | (some _, _) => none

def keywords? (items : List Argument) : Option (List (Keyword Reading)) :=
  items.mapM fun
    | (none, _) => none
    | (some arg, value) => some ⟨arg, value⟩

/-- The arguments of a call: those with keywords come last. -/
def callArguments? (items : List Argument) : Option (List Reading × List (Keyword Reading)) := do
  let args ← positional? (items.takeWhile (·.1.isNone))
  let keywords ← keywords? (items.dropWhile (·.1.isNone))
  some (args, keywords)

/-! ## The reader -/

-- Every reader goes on only with what is left of its tokens: this is why reading ends.
mutual
/-- A sum, or a chain of comparisons. -/
def readExpr (ts : List Token) : Option (Reading × List Token) := do
  let (left, rest) ← readLevel .sum ts
  if rest.length ≤ ts.length then
    let (others, rest) ← readComparisons rest
    some (if others.isEmpty then left else .compare left others, rest)
  else none
termination_by 16 * ts.length + 12
decreasing_by all_goals (try simp only [Level.rank]); omega

def readComparisons (ts : List Token) : Option (List (CmpOp × Reading) × List Token) :=
  match readComparator ts with
  | none => some ([], ts)
  | some (op, next) =>
    if next.length < ts.length then do
      let (right, rest) ← readLevel .sum next
      if rest.length < ts.length then
        let (others, rest) ← readComparisons rest
        some ((op, right) :: others, rest)
      else none
    else none
termination_by 16 * ts.length + 11
decreasing_by all_goals (try simp only [Level.rank]); omega

/-- What a level's operators stand between: terms in a sum, signed operands in a term. -/
def readItem (level : Level) (ts : List Token) : Option (Reading × List Token) :=
  match level with
  | .sum => readLevel .term ts
  | .term => readFactor ts
termination_by 16 * ts.length + level.rank + 5
decreasing_by all_goals simp [Level.rank]

def readLevel (level : Level) (ts : List Token) : Option (Reading × List Token) := do
  let (left, rest) ← readItem level ts
  if rest.length ≤ ts.length then readOthers level left rest else none
termination_by 16 * ts.length + level.rank + 6

def readOthers (level : Level) (left : Reading) (ts : List Token) :
    Option (Reading × List Token) :=
  match ts with
  | [] => some (left, [])
  | t :: next =>
    match level.op? t with
    | none => some (left, t :: next)
    | some op => do
      let (right, rest) ← readItem level next
      if rest.length ≤ next.length then readOthers level (.binOp left op right) rest else none
termination_by 16 * ts.length
decreasing_by
  · cases level <;> simp [Level.rank] <;> omega
  · simp; omega

/-- A sign, or a power. -/
def readFactor (ts : List Token) : Option (Reading × List Token) :=
  match ts with
  | .mark .minus :: ts => (readFactor ts).map fun (value, rest) => (.negative value, rest)
  | ts => readPower ts
termination_by 16 * ts.length + 4

/-- An operand, and the power it is raised to, which may have a sign. -/
def readPower (ts : List Token) : Option (Reading × List Token) := do
  let (base, rest) ← readPrimary ts
  match rest with
  | .mark .power :: next =>
    if next.length < ts.length then
      let (exponent, rest) ← readFactor next
      some (.binOp base .pow exponent, rest)
    else none
  | _ => some (base, rest)
termination_by 16 * ts.length + 3

def readPrimary (ts : List Token) : Option (Reading × List Token) := do
  let (atom, rest) ← readAtom ts
  if rest.length ≤ ts.length then readTrailers atom rest else none
termination_by 16 * ts.length + 2

/-- A name, a constant, a tuple, a list or an expression in parentheses. -/
def readAtom (ts : List Token) : Option (Reading × List Token) :=
  match ts with
  | .word word :: ts => (wordReading? word).map (·, ts)
  | .natural n :: ts => some (.constant (.int n), ts)
  | .text s :: ts => some (.constant (.str s), ts)
  | .mark .openParen :: .mark .closeParen :: ts => some (.tuple [], ts)
  | .mark .openParen :: ts => do
    let (first, rest) ← readExpr ts
    match rest with
    | .mark .closeParen :: rest => some (first, rest)
    | .mark .comma :: .mark .closeParen :: rest => some (.tuple [first], rest)
    | .mark .comma :: next =>
      if next.length ≤ ts.length then
        let (items, rest) ← readArguments .closeParen next
        let items ← positional? items
        some (.tuple (first :: items), rest)
      else none
    | _ => none
  | .mark .openBracket :: .mark .closeBracket :: ts => some (.list [], ts)
  | .mark .openBracket :: ts => do
    let (items, rest) ← readArguments .closeBracket ts
    let items ← positional? items
    some (.list items, rest)
  | _ => none
termination_by 16 * ts.length + 1

/-- The attributes and calls after an operand. -/
def readTrailers (value : Reading) (ts : List Token) : Option (Reading × List Token) :=
  match ts with
  | .mark .point :: .word attr :: ts =>
    if attr ∈ reservedWords then none else readTrailers (.attribute value attr) ts
  | .mark .point :: _ => none
  | .mark .openParen :: .mark .closeParen :: ts => readTrailers (.call value [] []) ts
  | .mark .openParen :: ts => do
    let (items, rest) ← readArguments .closeParen ts
    let (args, keywords) ← callArguments? items
    if rest.length ≤ ts.length then readTrailers (.call value args keywords) rest else none
  | ts => some (value, ts)
termination_by 16 * ts.length

/-- An expression, after its keyword if it has one. -/
def readArgument (ts : List Token) : Option (Argument × List Token) :=
  match ts with
  | .word arg :: .mark .assign :: ts =>
    if arg ∈ reservedWords then none
    else (readExpr ts).map fun (value, rest) => ((some arg, value), rest)
  | ts => (readExpr ts).map fun (value, rest) => ((none, value), rest)
termination_by 16 * ts.length + 13

/-- Arguments with commas between them, up to `close`; there may be one more comma before it. -/
def readArguments (close : Mark) (ts : List Token) : Option (List Argument × List Token) := do
  let (item, rest) ← readArgument ts
  match rest with
  | .mark m :: next =>
    if m = close then some ([item], next)
    else if m = .comma ∧ next.length < ts.length then
      if next.head? = some (.mark close) then some ([item], next.tail)
      else do
        let (items, rest) ← readArguments close next
        some (item :: items, rest)
    else none
  | _ => none
termination_by 16 * ts.length + 14
end

/-- A parenthesis that is not closed at once has an expression in it. -/
theorem readAtom_openParen {ts : List Token} (h : ts.head? ≠ some (.mark .closeParen)) :
    readAtom (.mark .openParen :: ts) = (do
      let (first, rest) ← readExpr ts
      match rest with
      | .mark .closeParen :: rest => some (first, rest)
      | .mark .comma :: .mark .closeParen :: rest => some (.tuple [first], rest)
      | .mark .comma :: next =>
        if next.length ≤ ts.length then
          let (items, rest) ← readArguments .closeParen next
          let items ← positional? items
          some (.tuple (first :: items), rest)
        else none
      | _ => none) := by
  have other : ∀ more, ts = .mark .closeParen :: more → False := by
    rintro more rfl
    simp at h
  rw [readAtom]
  exact other

/-- What a text that is one expression says. -/
def read (text : String) : Option Reading := do
  let ts ← Source.lex text.toList
  match ← readExpr ts with
  | (value, []) => some value
  | _ => none

end Loom.Grammar
