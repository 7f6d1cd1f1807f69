import Loom.Pattern.Basic
import Loom.Pattern.Property
import Loom.Unicode.CharClass

/-!
# Reading patterns

The readers take the characters that are left and return what they read with those after it. In
the mode that ignores space (`x`), blanks and comments may stand between the parts of a pattern.
Look-around and back-references are refused.
-/

namespace Loom.Pattern

/-! ## Blanks -/

mutual
/-- Drops blanks and comments. -/
def dropBlanks : List Char → List Char
  | [] => []
  | c :: cs =>
    if Unicode.isWhiteSpace c then dropBlanks cs
    else if c = '#' then dropComment cs
    else c :: cs

/-- Drops the rest of a comment, and the blanks after it. -/
def dropComment : List Char → List Char
  | [] => []
  | c :: cs => if c = '\n' then dropBlanks cs else dropComment cs
end

/-- What is left to read, without blanks if they are ignored. -/
def skip (x : Bool) (cs : List Char) : List Char := if x then dropBlanks cs else cs

/-! ## Escapes -/

/-- What an escape or a single character stands for. -/
inductive Atom where
  | literal (l : Literal)
  | assertion (a : Assertion)
  | cls (c : ClassExpr)

def hexValue? (c : Char) : Option Nat :=
  if c.isDigit then some (c.toNat - 48)
  else if 97 ≤ c.toNat && c.toNat ≤ 102 then some (c.toNat - 87)
  else if 65 ≤ c.toNat && c.toNat ≤ 70 then some (c.toNat - 55)
  else none

/-- The character with a code point, if there is one. -/
def charOf? (n : Nat) : Option Char :=
  if n < 0xD800 || (0xDFFF < n && n ≤ 0x10FFFF) then some (Char.ofNat n) else none

/-- Exactly `n` more hexadecimal digits. -/
def readHexDigits (x : Bool) : (n value : Nat) → List Char → Option (Nat × List Char)
  | 0, value, cs => some (value, cs)
  | n + 1, value, cs =>
    match skip x cs with
    | [] => none
    | c :: rest => (hexValue? c).bind fun d => readHexDigits x n (value * 16 + d) rest

/-- Hexadecimal digits up to a closing brace; `count` have been read. -/
def readHexBrace (x : Bool) : (fuel count value : Nat) → List Char → Option (Nat × List Char)
  | 0, _, _, _ => none
  | fuel + 1, count, value, cs =>
    match skip x cs with
    | [] => none
    | '\x7d' :: rest => if count = 0 then none else some (value, rest)
    | c :: rest =>
      (hexValue? c).bind fun d => readHexBrace x fuel (count + 1) (value * 16 + d) rest

/-- A hexadecimal escape whose letter is read; `digits` of them unless in braces. -/
def readHex (x : Bool) (digits : Nat) (cs : List Char) : Option (Atom × List Char) := do
  match skip x cs with
  | [] => none
  | '\x7b' :: rest =>
    let (n, rest) ← readHexBrace x (rest.length + 1) 0 0 rest
    some (.literal ⟨← charOf? n, false⟩, skip x rest)
  | cs =>
    let (n, rest) ← readHexDigits x digits 0 cs
    some (.literal ⟨← charOf? n, digits == 2⟩, skip x rest)

/-- The text up to a closing brace. -/
def readBraced (x : Bool) : (fuel : Nat) → List Char → Option (List Char × List Char)
  | 0, _ => none
  | fuel + 1, cs =>
    match skip x cs with
    | [] => none
    | '\x7d' :: rest => some ([], rest)
    | c :: rest => (readBraced x fuel rest).map fun (name, rest) => (c :: name, rest)

/-- Cuts a text before and after the first `!=`. -/
def cutNotEqual : List Char → Option (List Char × List Char)
  | [] => none
  | '!' :: '=' :: rest => some ([], rest)
  | c :: rest => (cutNotEqual rest).map fun (a, b) => (c :: a, b)

/-- Cuts a text before and after the first `sep`. -/
def cutAt (sep : Char) : List Char → Option (List Char × List Char)
  | [] => none
  | c :: rest =>
    if c = sep then some ([], rest) else (cutAt sep rest).map fun (a, b) => (c :: a, b)

/-- The class of a braced property, and whether its own operator negates it. -/
def propertyOf? (name : List Char) : Option (CharSet × Bool) :=
  let valued (p v : List Char) := Property.valued? (String.ofList p) (String.ofList v)
  match cutNotEqual name with
  | some (p, v) => (valued p v).map fun s => (s, true)
  | none =>
    match cutAt ':' name with
    | some (p, v) => (valued p v).map fun s => (s, false)
    | none =>
      match cutAt '=' name with
      | some (p, v) => (valued p v).map fun s => (s, false)
      | none => (Property.named? (String.ofList name)).map fun s => (s, false)

/-- A property whose letter is read. -/
def readProperty (x negated : Bool) (cs : List Char) : Option (Atom × List Char) := do
  match skip x cs with
  | [] => none
  | '\x7b' :: rest =>
    let (name, rest) ← readBraced x (rest.length + 1) rest
    let (set, flips) ← propertyOf? name
    some (.cls (.property set (negated != flips)), rest)
  | c :: rest =>
    let set ← Property.named? (String.singleton c)
    some (.cls (.property set negated), skip x rest)

def isBoundaryChar (c : Char) : Bool := c.isAlpha || c == '-'

def boundaryOf? (name : List Char) : Option Assertion :=
  match String.ofList name with
  | "start" => some .wordStart
  | "end" => some .wordStop
  | "start-half" => some .wordStartHalf
  | "end-half" => some .wordStopHalf
  | _ => none

/-- The letters of a named word boundary. -/
def readBoundaryName (x : Bool) : (fuel : Nat) → List Char → List Char × List Char
  | 0, cs => ([], cs)
  | fuel + 1, cs =>
    match skip x cs with
    | c :: rest =>
      if isBoundaryChar c then
        let (name, rest) := readBoundaryName x fuel rest
        (c :: name, rest)
      else ([], c :: rest)
    | [] => ([], [])

/-- A word boundary whose letter is read. A brace may name a special one; one that cannot be a name
is left to be read as a repetition. -/
def readBoundary (x : Bool) (cs : List Char) : Option (Atom × List Char) := do
  match cs with
  | '\x7b' :: rest =>
    match skip x rest with
    | [] => none
    | c :: _ =>
      if isBoundaryChar c then
        let (name, rest) := readBoundaryName x (rest.length + 1) rest
        match rest with
        | '\x7d' :: rest => some (.assertion (← boundaryOf? name), rest)
        | _ => none
      else some (.assertion .wordBoundary, cs)
  | cs => some (.assertion .wordBoundary, cs)

def isMeta (c : Char) : Bool := "\\.+*?()|[]\x7b\x7d^$#&-~".toList.contains c

/-- Whether a backslash may stand before `c` without changing it. -/
def isEscapable (c : Char) : Bool :=
  isMeta c || (c.toNat < 128 && !c.isAlphanum && c != '<' && c != '>')

def literalAtom (c : Char) : Atom := .literal ⟨c, false⟩

def shorthandAtom (kind : Shorthand) (negated : Bool) : Atom := .cls (.shorthand kind negated)

/-- An escape whose backslash is read. -/
def readEscape (x : Bool) : List Char → Option (Atom × List Char)
  | [] => none
  | 'x' :: cs => readHex x 2 cs
  | 'u' :: cs => readHex x 4 cs
  | 'U' :: cs => readHex x 8 cs
  | 'p' :: cs => readProperty x false cs
  | 'P' :: cs => readProperty x true cs
  | 'd' :: cs => some (shorthandAtom .digit false, cs)
  | 'D' :: cs => some (shorthandAtom .digit true, cs)
  | 's' :: cs => some (shorthandAtom .space false, cs)
  | 'S' :: cs => some (shorthandAtom .space true, cs)
  | 'w' :: cs => some (shorthandAtom .word false, cs)
  | 'W' :: cs => some (shorthandAtom .word true, cs)
  | 'a' :: cs => some (literalAtom '\x07', cs)
  | 'f' :: cs => some (literalAtom '\x0c', cs)
  | 't' :: cs => some (literalAtom '\t', cs)
  | 'n' :: cs => some (literalAtom '\n', cs)
  | 'r' :: cs => some (literalAtom '\r', cs)
  | 'v' :: cs => some (literalAtom '\x0b', cs)
  | 'A' :: cs => some (.assertion .textStart, cs)
  | 'z' :: cs => some (.assertion .textStop, cs)
  | 'b' :: cs => readBoundary x cs
  | 'B' :: cs => some (.assertion .notWordBoundary, cs)
  | '<' :: cs => some (.assertion .wordStart, cs)
  | '>' :: cs => some (.assertion .wordStop, cs)
  | c :: cs => if isEscapable c then some (literalAtom c, cs) else none

/-! ## Classes in brackets -/

/-- An ASCII class `[:name:]` whose opening bracket is read. -/
def readAsciiClass (cs : List Char) : Option (ClassExpr × List Char) := do
  match cs with
  | ':' :: rest =>
    let (negated, rest) := match rest with
      | '^' :: rest => (true, rest)
      | rest => (false, rest)
    let (name, rest) ← cutAt ':' rest
    match rest with
    | ']' :: rest =>
      let ranges ← asciiClasses.lookup (String.ofList name)
      some (.ascii ranges negated, rest)
    | _ => none
  | _ => none

/-- A character or escape of a class. -/
def readClassAtom (x : Bool) : List Char → Option (Atom × List Char)
  | [] => none
  | '\\' :: rest => readEscape x rest
  | c :: rest => some (literalAtom c, rest)

def classItem? : Atom → Option ClassExpr
  | .literal l => some (.range l l)
  | .cls c => some c
  | .assertion _ => none

/-- The characters from the one on that tells a range's hyphen from one that stands for itself. If
blanks are ignored, they are passed over, and the first `#` with them, but no more of a comment. -/
def afterHyphen (x : Bool) (rest : List Char) : List Char :=
  if x then
    match rest.dropWhile Unicode.isWhiteSpace with
    | '#' :: more => more.dropWhile Unicode.isWhiteSpace
    | cs => cs
  else rest

/-- Whether the next character starts a range's second half. -/
def startsRange (x : Bool) : List Char → Bool
  | '-' :: rest =>
    match afterHyphen x rest with
    | ']' :: _ => false
    | '-' :: _ => false
    | _ => true
  | _ => false

/-- A single member of a class, or a range. -/
def readClassItem (x : Bool) (cs : List Char) : Option (ClassExpr × List Char) := do
  let (first, rest) ← readClassAtom x cs
  let rest := skip x rest
  if rest.isEmpty then none
  else if startsRange x rest then
    let (second, rest) ← readClassAtom x (skip x (rest.drop 1))
    match first, second with
    | .literal low, .literal high =>
      if low.char.toNat ≤ high.char.toNat then some (.range low high, rest) else none
    | _, _ => none
  else some (← classItem? first, rest)

/-- The hyphens that stand for themselves at the start of a class. -/
def readHyphens (x : Bool) : (fuel : Nat) → List Char → List ClassExpr × List Char
  | 0, cs => ([], cs)
  | fuel + 1, cs =>
    match skip x cs with
    | '-' :: rest =>
      let (items, rest) := readHyphens x fuel rest
      (.range ⟨'-', false⟩ ⟨'-', false⟩ :: items, rest)
    | cs => ([], cs)

/-- The start of a class whose bracket is read: whether it is negated, and the members that stand
for themselves only there. -/
def readClassOpen (x : Bool) (cs : List Char) : Bool × List ClassExpr × List Char :=
  let (negated, cs) := match skip x cs with
    | '^' :: rest => (true, rest)
    | cs => (false, cs)
  let (items, cs) := readHyphens x (cs.length + 1) cs
  match items, skip x cs with
  | [], ']' :: rest => (negated, [.range ⟨']', false⟩ ⟨']', false⟩], rest)
  | items, cs => (negated, items, cs)

/-- The operator that the next two characters are. -/
def setOperator? : List Char → Option (SetOperator × List Char)
  | '&' :: '&' :: rest => some (.intersection, rest)
  | '-' :: '-' :: rest => some (.difference, rest)
  | '~' :: '~' :: rest => some (.symmetricDifference, rest)
  | _ => none

/-- The left operand and operator that are waiting, applied to what follows. -/
def applyPending (pending : Option (SetOperator × ClassExpr)) (items : List ClassExpr) :
    ClassExpr :=
  let set := ClassExpr.ofItems items.reverse
  match pending with
  | none => set
  | some (op, left) => .operation op left set

/-- The rest of a class after the members `items`, which are in reverse. -/
def readClass (x : Bool) : (fuel : Nat) → Option (SetOperator × ClassExpr) → List ClassExpr →
    List Char → Option (ClassExpr × List Char)
  | 0, _, _, _ => none
  | fuel + 1, pending, items, cs =>
    match skip x cs with
    | [] => none
    | ']' :: rest => some (applyPending pending items, rest)
    | '[' :: rest =>
      match readAsciiClass rest with
      | some (item, rest) => readClass x fuel pending (item :: items) rest
      | none => do
        let (negated, first, rest) := readClassOpen x rest
        let (inner, rest) ← readClass x fuel none first.reverse rest
        readClass x fuel pending (.bracket negated inner :: items) rest
    | cs =>
      match setOperator? cs with
      | some (op, rest) => readClass x fuel (some (op, applyPending pending items)) [] rest
      | none => do
        let (item, rest) ← readClassItem x cs
        readClass x fuel pending (item :: items) rest

/-- A bracketed class whose opening bracket is read. -/
def readBracket (x : Bool) (cs : List Char) : Option (ClassExpr × List Char) := do
  let (negated, first, rest) := readClassOpen x cs
  let (inner, rest) ← readClass x (rest.length + 1) none first.reverse rest
  some (.bracket negated inner, rest)

/-! ## Repetitions -/

/-- The mark that turns a repetition's preference around: whether it is missing, and what is
left. -/
def readEager : List Char → Bool × List Char
  | '?' :: rest => (false, rest)
  | cs => (true, cs)

def dropSpaces (cs : List Char) : List Char := cs.dropWhile Unicode.isWhiteSpace

/-- The digits of a count; blanks may stand between them if they are ignored. -/
def readCountDigits (x : Bool) : (fuel : Nat) → List Char → List Char × List Char
  | 0, cs => ([], cs)
  | fuel + 1, cs =>
    match cs with
    | c :: rest =>
      if c.isDigit then
        let (digits, rest) := readCountDigits x fuel (skip x rest)
        (c :: digits, rest)
      else ([], c :: rest)
    | [] => ([], [])

/-- A count of at most 32 bits, with blanks around it. -/
def readCount (x : Bool) (cs : List Char) : Option (Nat × List Char) :=
  match readCountDigits x (cs.length + 1) (dropSpaces cs) with
  | ([], _) => none
  | (digits, rest) =>
    let n := Nat.ofDigitChars 10 digits 0
    if n < Nat.pow 2 32 then some (n, dropSpaces rest) else none

/-- The bounds of a counted repetition whose brace is read. -/
def readBounds (x : Bool) (cs : List Char) : Option (Nat × Option Nat × List Char) := do
  let (min, rest) ← readCount x (skip x cs)
  match rest with
  | '\x7d' :: rest => some (min, some min, skip x rest)
  | ',' :: rest =>
    match skip x rest with
    | '\x7d' :: rest => some (min, none, skip x rest)
    | rest =>
      let (max, rest) ← readCount x rest
      match rest with
      | '\x7d' :: rest => if min ≤ max then some (min, some max, skip x rest) else none
      | _ => none
  | _ => none

/-- Repeats the last item; `items` are in reverse. -/
def repeatLast (min : Nat) (max : Option Nat) (eager : Bool) : List Pattern → Option (List Pattern)
  | [] => none
  | .flags _ :: _ => none
  | p :: ps => some (.times p min max eager :: ps)

/-! ## Groups -/

/-- How a group starts. -/
inductive Opening where
  | capture (name : Option (List Char))
  | scoped (settings : FlagSettings)
  | flags (settings : FlagSettings)

def isNameStart (c : Char) : Bool := c == '_' || Unicode.isAlphabetic c

def isNamePart (c : Char) : Bool :=
  c == '_' || c == '.' || c == '[' || c == ']' || Unicode.isAlphanumeric c

/-- The name of a capturing group, up to its closing angle. -/
def readGroupName (cs : List Char) : Option (List Char × List Char) := do
  let (name, rest) ← cutAt '>' cs
  match name with
  | [] => none
  | c :: more => if isNameStart c && more.all isNamePart then some (name, rest) else none

/-- The flags of a group up to the colon or parenthesis that ends them; `afterMinus` if a minus is
the last that was read. -/
def readFlags : (settings : FlagSettings) → (negated afterMinus : Bool) → List Char →
    Option (FlagSettings × Char × List Char)
  | _, _, _, [] => none
  | settings, negated, afterMinus, c :: rest =>
    if c = ':' || c = ')' then if afterMinus then none else some (settings, c, rest)
    else if c = '-' then if negated then none else readFlags settings true true rest
    else
      match Flag.ofChar? c with
      | none => none
      | some flag =>
        if settings.any (·.1 == flag) then none
        else readFlags (settings ++ [(flag, !negated)]) negated false rest

/-- The start of a group whose parenthesis is read. -/
def readOpening (x : Bool) (cs : List Char) : Option (Opening × List Char) := do
  match skip x cs with
  | '?' :: '=' :: _ => none
  | '?' :: '!' :: _ => none
  | '?' :: '<' :: '=' :: _ => none
  | '?' :: '<' :: '!' :: _ => none
  | '?' :: 'P' :: '<' :: rest =>
    let (name, rest) ← readGroupName rest
    some (.capture (some name), rest)
  | '?' :: '<' :: rest =>
    let (name, rest) ← readGroupName rest
    some (.capture (some name), rest)
  | '?' :: rest =>
    let (settings, last, rest) ← readFlags [] false false rest
    if last = ':' then some (.scoped settings, rest)
    else if settings.isEmpty then none
    else some (.flags settings, rest)
  | cs => some (.capture none, cs)

/-- Whether blanks are ignored under the settings. -/
def ignoresSpace (x : Bool) (settings : FlagSettings) : Bool :=
  (settings.lookup .ignoreSpace).getD x

/-! ## Whole patterns -/

/-- What has been read of a group, in reverse: its finished alternatives and the items of the
current one. -/
structure Draft where
  alternatives : List Pattern
  items : List Pattern

namespace Draft

def start : Draft := ⟨[], []⟩

def push (b : Draft) (p : Pattern) : Draft := { b with items := p :: b.items }

def finish (b : Draft) : Pattern :=
  let last := Pattern.ofItems b.items.reverse
  if b.alternatives.isEmpty then last else .alternation (last :: b.alternatives).reverse

/-- Starts the next alternative. -/
def next (b : Draft) : Draft :=
  ⟨Pattern.ofItems b.items.reverse :: b.alternatives, []⟩

end Draft

def atomPattern : Atom → Pattern
  | .literal l => .literal l
  | .assertion a => .assertion a
  | .cls c => .cls c

/-- The capturing groups opened so far: how many, and the names of those that have one. -/
structure Captures where
  count : Nat
  names : List (List Char)

namespace Captures

def empty : Captures := ⟨0, []⟩

/-- With another group, whose name must be new. -/
def add? (g : Captures) : Option (List Char) → Option Captures
  | none => some { g with count := g.count + 1 }
  | some name => if g.names.contains name then none else some ⟨g.count + 1, name :: g.names⟩

end Captures

/-- A repetition sign: its bounds, and the characters after it. -/
def readRepetition (x : Bool) : List Char → Option (Nat × Option Nat × List Char)
  | '?' :: rest => some (0, some 1, rest)
  | '*' :: rest => some (0, none, rest)
  | '+' :: rest => some (1, none, rest)
  | '\x7b' :: rest => readBounds x rest
  | _ => none

def isRepetitionSign (c : Char) : Bool := c == '?' || c == '*' || c == '+' || c == '\x7b'

/-- Reads up to the end of the group, or of the text outside any group. -/
def readItems : (fuel : Nat) → (x inGroup : Bool) → Captures → Draft → List Char →
    Option (Pattern × Captures × List Char)
  | 0, _, _, _, _, _ => none
  | fuel + 1, x, inGroup, groups, b, cs =>
    match skip x cs with
    | [] => if inGroup then none else some (b.finish, groups, [])
    | ')' :: rest => if inGroup then some (b.finish, groups, rest) else none
    | '|' :: rest => readItems fuel x inGroup groups b.next rest
    | '(' :: rest => do
      let (opening, rest) ← readOpening x rest
      match opening with
      | .flags settings =>
        readItems fuel (ignoresSpace x settings) inGroup groups (b.push (.flags settings)) rest
      | .scoped settings =>
        let (inner, groups, rest) ←
          readItems fuel (ignoresSpace x settings) true groups .start rest
        readItems fuel x inGroup groups (b.push (.group settings inner)) rest
      | .capture name =>
        let opened ← groups.add? name
        let (inner, groups, rest) ← readItems fuel x true opened .start rest
        readItems fuel x inGroup groups (b.push (.capture opened.count inner)) rest
    | '[' :: rest => do
      let (c, rest) ← readBracket x rest
      readItems fuel x inGroup groups (b.push (.cls c)) rest
    | '\\' :: rest => do
      let (atom, rest) ← readEscape x rest
      readItems fuel x inGroup groups (b.push (atomPattern atom)) rest
    | '.' :: rest => readItems fuel x inGroup groups (b.push .dot) rest
    | '^' :: rest => readItems fuel x inGroup groups (b.push (.assertion .lineStart)) rest
    | '$' :: rest => readItems fuel x inGroup groups (b.push (.assertion .lineStop)) rest
    | c :: rest =>
      if isRepetitionSign c then do
        let (min, max, rest) ← readRepetition x (c :: rest)
        let (eager, rest) := readEager rest
        let items ← repeatLast min max eager b.items
        readItems fuel x inGroup groups { b with items } rest
      else readItems fuel x inGroup groups (b.push (.literal ⟨c, false⟩)) rest

/-- How deep a pattern may nest. -/
def nestingLimit : Nat := 250

def parse (cs : List Char) : Option Pattern := do
  let (p, _, _) ← readItems (cs.length + 1) false false .empty .start cs
  if p.depth ≤ nestingLimit then some p else none

end Loom.Pattern
