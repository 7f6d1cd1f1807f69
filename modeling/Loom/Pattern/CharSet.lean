import Loom.Unicode.BinaryProperty
import Loom.Unicode.CaseFolding

/-!
# Sets of characters

The sets that a pattern's classes denote: inclusive ranges of code points, in ascending order and
with room between any two of them. The ends of a range are characters, so the neighbours of a bound
step over the surrogates. Two ranges that meet only across the surrogates stay two, and the gap
between them counts as the range from the one bound to the other.
-/

namespace Loom

open Unicode (RangeTable)

structure CharSet where
  ranges : List (Nat × Nat)
  deriving DecidableEq, Repr

namespace CharSet

/-- The greatest code point. -/
def maxCode : Nat := 0x10FFFF

/-- The character after `n`. -/
def next (n : Nat) : Nat := if n = 0xD7FF then 0xE000 else n + 1

/-- The character before `n`. -/
def previous (n : Nat) : Nat := if n = 0xE000 then 0xD7FF else n - 1

/-- The range between two code points, whichever is the smaller. -/
def span (a b : Nat) : Nat × Nat := if a ≤ b then (a, b) else (b, a)

/-! ## Building sets -/

/-- Joins ascending ranges that meet; `low` and `high` bound the one that is growing. -/
def joinFrom (low high : Nat) : List (Nat × Nat) → List (Nat × Nat)
  | [] => [(low, high)]
  | (l, h) :: rest =>
    if l ≤ high + 1 then joinFrom low (max high h) rest else (low, high) :: joinFrom l h rest

def join : List (Nat × Nat) → List (Nat × Nat)
  | [] => []
  | (l, h) :: rest => joinFrom l h rest

/-- The union of any ranges. -/
def ofRanges (rs : List (Nat × Nat)) : CharSet := ⟨join (rs.mergeSort fun a b => a.1 ≤ b.1)⟩

def ofTable (t : RangeTable) : CharSet := ofRanges t.ranges

def empty : CharSet := ⟨[]⟩

/-- Every character. -/
def any : CharSet := ⟨[(0, maxCode)]⟩

def range (low high : Nat) : CharSet := ⟨[(low, high)]⟩

def single (c : Char) : CharSet := range c.toNat c.toNat

/-! ## Membership -/

def contains (s : CharSet) (c : Char) : Bool :=
  s.ranges.any fun r => r.1 ≤ c.toNat && c.toNat ≤ r.2

def isEmpty (s : CharSet) : Bool := s.ranges.isEmpty

/-- Whether all members are ASCII. -/
def isAscii (s : CharSet) : Bool := s.ranges.all fun r => r.2 < 128

/-- The only member. -/
def only? (s : CharSet) : Option Char :=
  match s.ranges with
  | [(low, high)] => if low = high then some (Char.ofNat low) else none
  | _ => none

/-! ## Operations -/

def union (a b : CharSet) : CharSet := ofRanges (a.ranges ++ b.ranges)

/-- The gaps of a set after the bound `high`. -/
def gapsAfter (high : Nat) : List (Nat × Nat) → List (Nat × Nat)
  | [] => if high < maxCode then [(next high, maxCode)] else []
  | (l, h) :: rest => span (next high) (previous l) :: gapsAfter h rest

def compl (s : CharSet) : CharSet :=
  match s.ranges with
  | [] => any
  | (l, h) :: rest => ⟨(if 0 < l then [(0, previous l)] else []) ++ gapsAfter h rest⟩

def interRanges : (as bs : List (Nat × Nat)) → List (Nat × Nat)
  | [], _ => []
  | (l, h) :: as, bs =>
    let bs := bs.dropWhile fun b => b.2 < l
    (bs.takeWhile fun b => b.1 ≤ h).map (fun b => (max l b.1, min h b.2)) ++ interRanges as bs

def inter (a b : CharSet) : CharSet := ⟨interRanges a.ranges b.ranges⟩

/-- What ascending ranges leave of the range from `low` to `high`. -/
def cut (low high : Nat) : List (Nat × Nat) → List (Nat × Nat)
  | [] => [(low, high)]
  | (l, h) :: rest =>
    if h < low then cut low high rest
    else if high < l then [(low, high)]
    else
      (if low < l then [(low, previous l)] else []) ++
        if h < high then cut (next h) high rest else []

def diffRanges : (as bs : List (Nat × Nat)) → List (Nat × Nat)
  | [], _ => []
  | (l, h) :: as, bs =>
    let bs := bs.dropWhile fun b => b.2 < l
    cut l h bs ++ diffRanges as bs

def diff (a b : CharSet) : CharSet := ⟨diffRanges a.ranges b.ranges⟩

/-- The members of exactly one of the sets. -/
def symmDiff (a b : CharSet) : CharSet := (a.union b).diff (a.inter b)

/-! ## Case -/

/-- The variants of the members, looked up in entries that ascend like the ranges. -/
def variantsIn : List (Nat × Nat) → List (Nat × List Nat) → List Nat
  | [], _ => []
  | (l, h) :: rest, entries =>
    let entries := entries.dropWhile fun e => e.1 < l
    (entries.takeWhile fun e => e.1 ≤ h).flatMap (·.2) ++ variantsIn rest entries

/-- The set with all case variants of its members. -/
def folded (s : CharSet) : CharSet :=
  ofRanges (s.ranges ++ (variantsIn s.ranges Unicode.caseVariants).map fun n => (n, n))

/-- The set with the other case of its ASCII letters. -/
def asciiFolded (s : CharSet) : CharSet :=
  let capitals := (s.inter (range 97 122)).ranges.map fun r => (r.1 - 32, r.2 - 32)
  let smalls := (s.inter (range 65 90)).ranges.map fun r => (r.1 + 32, r.2 + 32)
  ofRanges (s.ranges ++ capitals ++ smalls)

/-! ## Digits, spaces and word characters -/

/-- The decimal digits of all scripts. -/
def digits : CharSet := ofTable (Unicode.categoryTable ["Nd"])

def spaces : CharSet := ofTable (Unicode.binaryTable "White_Space")

/-- The characters that words are made of: letters, marks, digits, connectors and joiners. -/
def wordChars : CharSet :=
  ofRanges ((Unicode.binaryTable "Alphabetic").ranges ++
    (Unicode.categoryTable ["Mn", "Mc", "Me", "Nd", "Pc"]).ranges ++
    (Unicode.binaryTable "Join_Control").ranges)

def asciiDigits : CharSet := range 48 57

def asciiSpaces : CharSet := ⟨[(9, 13), (32, 32)]⟩

def asciiWordChars : CharSet := ⟨[(48, 57), (65, 90), (95, 95), (97, 122)]⟩

end CharSet

end Loom
