import Loom.Number.Numeral

/-!
# Documents

The values that trees, specs and configurations are exchanged as: JSON. Numbers stay numerals until
a decoder asks for an integer or a double, and object fields keep their order and repetitions.
-/

namespace Loom

open Number (Numeral)

/-- A JSON value. The content of a string, or of a key, is `none` when its escapes hold half of a
surrogate pair: such a string may be skipped but not read. -/
inductive Document where
  | null
  | bool (value : Bool)
  | number (numeral : Numeral)
  | string (content : Option String)
  | array (items : List Document)
  | object (fields : List (Option String × Document))
  deriving Repr

namespace Document

/-- A readable string. -/
def str (s : String) : Document := .string (some s)

/-- An object from its keys and values. -/
def record (fields : List (String × Document)) : Document :=
  .object (fields.map fun f => (some f.1, f.2))

def int (i : Int) : Document := .number (.ofInt i)

/-- A string, or null for none. -/
def optional : Option String → Document
  | none => .null
  | some s => .str s

/-! ## What a reader of any value accepts -/

mutual
/-- Whether the value can be read whole: its containers nest at most `allowance` deep, its strings
are texts and its numbers are within the range of doubles. -/
def isReadable : (allowance : Nat) → Document → Bool
  | _, .null => true
  | _, .bool _ => true
  | _, .number n => n.toBinary64?.isSome
  | _, .string s => s.isSome
  | 0, .array _ => false
  | n + 1, .array items => areReadable n items
  | 0, .object _ => false
  | n + 1, .object fields => fieldsReadable n fields

def areReadable : (allowance : Nat) → List Document → Bool
  | _, [] => true
  | n, d :: ds => isReadable n d && areReadable n ds

def fieldsReadable : (allowance : Nat) → List (Option String × Document) → Bool
  | _, [] => true
  | n, (key, d) :: rest => key.isSome && isReadable n d && fieldsReadable n rest
end

end Document

end Loom
