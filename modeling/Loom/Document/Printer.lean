import Loom.Document.Basic

/-!
# Printing documents

`pretty` writes a document over several lines, two spaces deeper for each container; `compact`
writes it on one line. Both escape in strings only the quote, the backslash and the controls, and
sign every exponent.
-/

namespace Loom.Document

/-- A digit of base 16. -/
def hexDigit (n : Nat) : Char :=
  if n < 10 then Char.ofNat ('0'.toNat + n) else Char.ofNat ('a'.toNat + (n - 10))

/-- How a character is written inside a string. -/
def escape (c : Char) : List Char :=
  match c with
  | '"' => ['\\', '"']
  | '\\' => ['\\', '\\']
  | '\x08' => ['\\', 'b']
  | '\x0c' => ['\\', 'f']
  | '\n' => ['\\', 'n']
  | '\r' => ['\\', 'r']
  | '\t' => ['\\', 't']
  | c =>
    if c.toNat < 32 then ['\\', 'u', '0', '0', hexDigit (c.toNat / 16), hexDigit (c.toNat % 16)]
    else [c]

def quote (s : String) : String := "\"" ++ String.ofList (s.toList.flatMap escape) ++ "\""

/-- A line break and the indentation of `depth` containers. -/
def newline (depth : Nat) : String := "\n" ++ String.ofList (List.replicate (2 * depth) ' ')

mutual
/-- The text of a value that stands `depth` containers deep. -/
def prettyAt (depth : Nat) : Document → String
  | .null => "null"
  | .bool true => "true"
  | .bool false => "false"
  | .number n => n.textWith "+"
  | .string s => quote (s.getD "")
  | .array [] => "[]"
  | .array (d :: ds) =>
    "[" ++ newline (depth + 1) ++ prettyAt (depth + 1) d ++ prettyItems (depth + 1) ds ++
      newline depth ++ "]"
  | .object [] => "\x7b\x7d"
  | .object ((key, d) :: fields) =>
    "\x7b" ++ newline (depth + 1) ++ quote (key.getD "") ++ ": " ++ prettyAt (depth + 1) d ++
      prettyFields (depth + 1) fields ++ newline depth ++ "\x7d"

/-- The items after the first. -/
def prettyItems (depth : Nat) : List Document → String
  | [] => ""
  | d :: ds => "," ++ newline depth ++ prettyAt depth d ++ prettyItems depth ds

/-- The fields after the first. -/
def prettyFields (depth : Nat) : List (Option String × Document) → String
  | [] => ""
  | (key, d) :: fields =>
    "," ++ newline depth ++ quote (key.getD "") ++ ": " ++ prettyAt depth d ++
      prettyFields depth fields
end

def pretty (d : Document) : String := prettyAt 0 d

mutual
def compact : Document → String
  | .null => "null"
  | .bool true => "true"
  | .bool false => "false"
  | .number n => n.textWith "+"
  | .string s => quote (s.getD "")
  | .array items => "[" ++ ",".intercalate (compactItems items) ++ "]"
  | .object fields => "\x7b" ++ ",".intercalate (compactFields fields) ++ "\x7d"

def compactItems : List Document → List String
  | [] => []
  | d :: ds => compact d :: compactItems ds

def compactFields : List (Option String × Document) → List String
  | [] => []
  | (key, d) :: fields => (quote (key.getD "") ++ ":" ++ compact d) :: compactFields fields
end

end Loom.Document
