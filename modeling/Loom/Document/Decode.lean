import Loom.Document.Basic

/-!
# Decoding documents

What the decoders of trees, specs and configurations share. Every decoder takes an allowance: how
many more containers may open. Values that no decoder looks at are not counted.

A structure is an object, or an array of its fields in order. A variant is an object with one
field, named for the variant, or for a variant without content the name alone.
-/

namespace Loom.Document

open Number (Numeral Binary64)

/-- How deep the containers of a document may nest. -/
def nestingLimit : Nat := 127

/-- A reader of documents under an allowance. -/
abbrev Decoder (α : Type) := (allowance : Nat) → Document → Option α

namespace Decoder

def string : Decoder String
  | _, .string s => s
  | _, _ => none

def bool : Decoder Bool
  | _, .bool b => some b
  | _, _ => none

/-- An integer between `low` and `high`. -/
def intBetween (low high : Int) : Decoder Int
  | _, .number n =>
    match n.toInt? with
    | some i => if low ≤ i ∧ i ≤ high then some i else none
    | none => none
  | _, _ => none

/-- A signed 64-bit integer. -/
def int64 : Decoder Int := intBetween (-Int.pow 2 63) (Int.pow 2 63 - 1)

/-- An unsigned 64-bit integer. -/
def size : Decoder Nat := fun n d => (intBetween 0 (Int.pow 2 64 - 1) n d).map Int.toNat

def binary64 : Decoder Binary64
  | _, .number n => n.toBinary64?
  | _, _ => none

/-- Null, or a value. -/
def optional {α : Type} (item : Decoder α) : Decoder (Option α)
  | _, .null => some none
  | n, d => (item n d).map some

def list {α : Type} (item : Decoder α) : Decoder (List α)
  | n + 1, .array items => items.mapM (item n)
  | _, _ => none

end Decoder

/-! ## Structures -/

/-- The named values of a structure. -/
abbrev Record := List (String × Document)

/-- Keeps the fields with one of `names`; none if a key is no text or a kept one is repeated. -/
def knownFields (names : List String) : List (Option String × Document) → Option Record
  | [] => some []
  | (none, _) :: _ => none
  | (some key, d) :: rest => do
    let known ← knownFields names rest
    if names.contains key then
      if known.any (·.1 == key) then none else some ((key, d) :: known)
    else some known

/-- The fields of a structure with the field names `names`. -/
def fields (names : List String) : Document → Option Record
  | .object fs => knownFields names fs
  | .array items => if items.length ≤ names.length then some (names.zip items) else none
  | _ => none

namespace Record

/-- A field that must be there. -/
def get {α : Type} (r : Record) (name : String) (item : Document → Option α) : Option α :=
  match r.lookup name with
  | some d => item d
  | none => none

/-- A field that may be missing. -/
def getD {α : Type} (r : Record) (name : String) (item : Document → Option α) (missing : α) :
    Option α :=
  match r.lookup name with
  | some d => item d
  | none => some missing

end Record

/-! ## Variants -/

/-- A variant's name, with its content if it is written as an object. -/
def variant : Document → Option (String × Option Document)
  | .string (some name) => some (name, none)
  | .object [(some name, content)] => some (name, some content)
  | _ => none

end Loom.Document
