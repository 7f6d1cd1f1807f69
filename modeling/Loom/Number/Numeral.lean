import Loom.Number.Shortest

/-!
# Numerals

The written form of a number: sign, digits, fraction and exponent. A numeral is read as a 64-bit
integer (`toInt?`) or as a double (`toBinary64?`), and written from either (`ofInt`, `ofBinary64`)
under a `Layout`, which says which magnitudes are written without an exponent.
-/

namespace Loom.Number

/-- A numeral. An empty `fraction` means that no point was written. -/
structure Numeral where
  negative : Bool
  whole : List Char
  fraction : List Char
  exponent : Option Int
  deriving DecidableEq, Repr

namespace Numeral

/-- The text of a numeral; `plus` stands before an exponent that is not negative. -/
def textWith (plus : String) (n : Numeral) : String :=
  (if n.negative then "-" else "") ++ String.ofList n.whole ++
    (if n.fraction.isEmpty then "" else "." ++ String.ofList n.fraction) ++
    (match n.exponent with
      | none => ""
      | some e => "e" ++ (if e < 0 then "-" else plus) ++ String.ofList (Nat.toDigits 10 e.natAbs))

def text (n : Numeral) : String := n.textWith ""

/-! ## Integers -/

/-- Whether the numeral is written as an integer; `-0` is not one. -/
def isIntegral (n : Numeral) : Bool :=
  n.fraction.isEmpty && n.exponent.isNone && !(n.negative && n.whole == ['0'])

/-- The integer that the numeral spells. -/
def toInt? (n : Numeral) : Option Int :=
  if n.isIntegral then
    let v : Int := Nat.ofDigitChars 10 n.whole 0
    some (if n.negative then -v else v)
  else none

def ofInt (i : Int) : Numeral := ⟨i < 0, Nat.toDigits 10 i.natAbs, [], none⟩

def digitValue (c : Char) : Nat := c.toNat - '0'.toNat

/-! ## Doubles -/

/-- The greatest significand that is kept exactly. -/
def maxSignificand : Nat := Nat.pow 2 64 - 1

/-- Appends whole digits while the significand fits; each digit after that counts as a factor of
ten. -/
def readWhole (significand : Nat) : List Char → Nat × Int
  | [] => (significand, 0)
  | c :: cs =>
    if significand * 10 + digitValue c ≤ maxSignificand then
      readWhole (significand * 10 + digitValue c) cs
    else (significand, (c :: cs).length)

/-- Appends fraction digits while the significand fits and drops the rest. -/
def readFraction (significand : Nat) (exponent : Int) : List Char → Nat × Int
  | [] => (significand, exponent)
  | c :: cs =>
    if significand * 10 + digitValue c ≤ maxSignificand then
      readFraction (significand * 10 + digitValue c) (exponent - 1) cs
    else (significand, exponent)

/-- The double nearest to `10 ^ k`, for `k` up to 308. -/
def powerOfTen (k : Nat) : Ratio :=
  ((Binary64.round false ⟨Nat.pow 10 k, 1⟩).map (·.magnitude)).getD ⟨0, 1⟩

/-- Divides by `10 ^ 308` until the exponent is in reach of one division; the number is zero
after two such steps. -/
def scaleDown : (fuel : Nat) → Binary64 → Int → Option Binary64
  | 0, x, _ => some x
  | fuel + 1, x, exponent =>
    if -308 ≤ exponent then
      Binary64.round x.negative (x.magnitude.div (powerOfTen (-exponent).toNat))
    else do
      let y ← Binary64.round x.negative (x.magnitude.div (powerOfTen 308))
      scaleDown fuel y (exponent + 308)

/-- `± significand * 10 ^ exponent`, rounded once for the significand and once for each power of
ten it is scaled by; none when it leaves the range of doubles. -/
def scale (negative : Bool) (significand : Nat) (exponent : Int) : Option Binary64 :=
  match Binary64.round negative ⟨significand, 1⟩ with
  | none => none
  | some x =>
    if x.isZero then some x
    else if exponent > 308 then none
    else if 0 ≤ exponent then
      Binary64.round negative (x.magnitude.mul (powerOfTen exponent.toNat))
    else scaleDown 3 x exponent

/-- Exponents past this are taken as infinite. -/
def maxExponent : Int := Int.pow 2 31 - 1

def toBinary64? (n : Numeral) : Option Binary64 :=
  let (s₁, e₁) := readWhole 0 n.whole
  let (s₂, e₂) := readFraction s₁ e₁ n.fraction
  match n.exponent with
  | none => scale n.negative s₂ e₂
  | some e =>
    if e > maxExponent then
      if s₂ = 0 then some (.zero n.negative) else none
    else if e < -maxExponent then some (.zero n.negative)
    else scale n.negative s₂ (e₂ + e)

/-- How doubles are written: positionally when the point falls more than `least` and at most
`most` places right of the first digit's left, else with an exponent. -/
structure Layout where
  least : Int
  most : Int
  tie : Tie

/-- The numeral of a double. A positional one always has a fraction. -/
def ofBinary64 (layout : Layout) (x : Binary64) : Numeral :=
  if x.isZero then ⟨x.negative, ['0'], ['0'], none⟩
  else
    let d := x.shortest layout.tie
    let digits := Nat.toDigits 10 d.digits
    let point : Int := digits.length + d.exponent
    if layout.least < point ∧ point ≤ layout.most then
      if 0 ≤ d.exponent then
        ⟨x.negative, digits ++ List.replicate d.exponent.toNat '0', ['0'], none⟩
      else if 0 < point then
        ⟨x.negative, digits.take point.toNat, digits.drop point.toNat, none⟩
      else ⟨x.negative, ['0'], List.replicate (-point).toNat '0' ++ digits, none⟩
    else ⟨x.negative, digits.take 1, digits.drop 1, some (point - 1)⟩

end Numeral

end Loom.Number
