/-!
# Code points as bytes

The encoding of a code point in one to four bytes, and the ranges of bytes, one after the other,
that a range of code points is made of.
-/

namespace Loom.Utf8

/-- A byte that continues a character, with the low six bits of `n`. -/
def tail (n : Nat) : Nat := 0x80 + n % 64

/-- The bytes of a code point. -/
def encode (n : Nat) : List Nat :=
  if n < 0x80 then [n]
  else if n < 0x800 then [0xC0 + n / 64, tail n]
  else if n < 0x10000 then [0xE0 + n / 4096, tail (n / 64), tail n]
  else [0xF0 + n / 262144, tail (n / 4096), tail (n / 64), tail n]

/-- Leaves the surrogates out of a range. -/
def cutSurrogates : Nat × Nat → List (Nat × Nat)
  | (low, high) =>
    if low < 0xE000 && 0xD7FF < high then
      [(low, 0xD7FF), (0xE000, high)].filter fun r => r.1 ≤ r.2
    else [(low, high)]

/-- Cuts a range after `last` if it goes on beyond. -/
def cutAfter (last : Nat) : Nat × Nat → List (Nat × Nat)
  | (low, high) =>
    if low ≤ last && last < high then [(low, last), (last + 1, high)] else [(low, high)]

/-- Cuts a range so that each piece lies within one block of `unit` code points or is made of whole
blocks. ASCII is never cut. -/
def cutBlocks (unit : Nat) : Nat × Nat → List (Nat × Nat)
  | (low, high) =>
    if high < 0x80 || low / unit = high / unit then [(low, high)]
    else
      let first := (low + unit - 1) / unit * unit
      let last := high / unit * unit
      let rest :=
        if first / unit = high / unit || high + 1 = last + unit then [(first, high)]
        else [(first, last - 1), (last, high)]
      if low < first then (low, first - 1) :: rest else rest

/-- The byte ranges that the characters from `low` to `high` are made of: a character is one of them
exactly when its bytes fall into the ranges of one of the lists. -/
def sequences (range : Nat × Nat) : List (List (Nat × Nat)) :=
  let pieces := (cutSurrogates range).flatMap (cutAfter 0x7F)
  let pieces := (pieces.flatMap (cutAfter 0x7FF)).flatMap (cutAfter 0xFFFF)
  let pieces := (pieces.flatMap (cutBlocks 64)).flatMap (cutBlocks 4096)
  let pieces := pieces.flatMap (cutBlocks 262144)
  pieces.map fun (low, high) => (encode low).zip (encode high)

end Loom.Utf8
