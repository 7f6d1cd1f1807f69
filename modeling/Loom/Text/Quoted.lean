import Loom.Unicode.CharClass

/-!
# Quoted texts

A text between double quotes with every character that would not show as itself written as an
escape: `\n`, `\t`, `\r`, `\0`, a backslash before the quote and the backslash, and the code point
in braces for combining marks, fillers and whatever else has no shape of its own.
-/

namespace Loom.Text

open Unicode (isInvisible isPrintable)

/-- A character by its code point. -/
def codePointEscape (c : Char) : List Char :=
  ['\\', 'u', '\x7b'] ++ Nat.toDigits 16 c.toNat ++ ['\x7d']

/-- How a character is written; `single` says whether the single quote is escaped too. -/
def quoteChar (single : Bool) (c : Char) : List Char :=
  match c with
  | '\x00' => ['\\', '0']
  | '\t' => ['\\', 't']
  | '\r' => ['\\', 'r']
  | '\n' => ['\\', 'n']
  | '\\' => ['\\', '\\']
  | '"' => ['\\', '"']
  | '\'' => if single then ['\\', '\''] else ['\'']
  | c => if isPrintable c && !isInvisible c then [c] else codePointEscape c

def quotedWith (single : Bool) (s : String) : String :=
  "\"" ++ String.ofList (s.toList.flatMap (quoteChar single)) ++ "\""

/-- The quoted form of a text. -/
def quoted (s : String) : String := quotedWith false s

/-- The quoted form of a file path, which escapes the single quote too. -/
def quotedPath (s : String) : String := quotedWith true s

end Loom.Text
