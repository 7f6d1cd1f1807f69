/-!
# Tables of code points

Sets of code points as lists of inclusive ranges, and the compact text they are kept in. A number
is written in base 26, its last digit as a small letter and the digits before it as capitals; a
table alternates the gap before a range with one less than the range's length.
-/

namespace Loom.Unicode

/-- A set of code points as inclusive ranges. -/
structure RangeTable where
  ranges : List (Nat × Nat)

namespace RangeTable

/-- Whether the code point `n` is in the set. -/
def containsCode (t : RangeTable) (n : Nat) : Bool :=
  t.ranges.any fun r => r.1 ≤ n && n ≤ r.2

def contains (t : RangeTable) (c : Char) : Bool := t.containsCode c.toNat

/-- The numbers a text spells; `acc` is what the capitals read so far amount to. -/
def numerals (acc : Nat) : List Char → List Nat
  | [] => []
  | c :: rest =>
    if c.toNat < 97 then numerals (acc * 26 + (c.toNat - 65)) rest
    else (acc * 26 + (c.toNat - 97)) :: numerals 0 rest

/-- Ranges from alternating gaps and lengths, the first gap counted from `start`. -/
def fromGaps (start : Nat) : List Nat → List (Nat × Nat)
  | gap :: extent :: rest =>
    (start + gap, start + gap + extent) :: fromGaps (start + gap + extent + 1) rest
  | _ => []

/-- The table that the lines of `code` spell. -/
def decode (code : List String) : RangeTable :=
  ⟨fromGaps 0 (numerals 0 (code.flatMap String.toList))⟩

end RangeTable

end Loom.Unicode
