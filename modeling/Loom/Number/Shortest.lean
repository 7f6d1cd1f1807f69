import Loom.Number.Binary64

/-!
# Shortest decimals

The decimal with the fewest digits that reads back as a given double, and of those the nearest
one. For 1, 2, … 17 digits the two neighbours of the value on that decimal grid are tried against
the interval of reals that round to it; the first grid with a hit wins.
-/

namespace Loom.Number

/-- Which way a value half-way between two equally short decimals goes. -/
inductive Tie where
  | up
  | even
  deriving DecidableEq, Repr

/-- `digits * 10 ^ exponent`. -/
structure Decimal where
  digits : Nat
  exponent : Int
  deriving DecidableEq, Repr

namespace Decimal

def ratio (d : Decimal) : Ratio := (Ratio.mk d.digits 1).mul (.power 10 d.exponent)

/-- The same number without trailing zeros; `fuel` bounds how many are dropped. -/
def strip : Nat → Decimal → Decimal
  | 0, d => d
  | fuel + 1, d =>
    if d.digits ≠ 0 ∧ d.digits % 10 = 0 then strip fuel ⟨d.digits / 10, d.exponent + 1⟩ else d

end Decimal

/-- The reals that round to a double: `low` to `high`, the ends included iff `closed`. -/
structure RoundingInterval where
  low : Ratio
  high : Ratio
  closed : Bool

namespace RoundingInterval

/-- The interval of a non-zero double. Below a power of two the gap is half as wide. -/
def of (x : Binary64) : RoundingInterval :=
  let unit := Ratio.power 2 (x.exponent - 2)
  let below := if x.mantissa = Nat.pow 2 52 ∧ x.exponent > -1074 then 1 else 2
  { low := (Ratio.mk (4 * x.mantissa - below) 1).mul unit
    high := (Ratio.mk (4 * x.mantissa + 2) 1).mul unit
    closed := x.mantissa % 2 == 0 }

def contains (i : RoundingInterval) (a : Ratio) : Bool :=
  if i.closed then i.low.le a && a.le i.high else !a.le i.low && !i.high.le a

end RoundingInterval

/-- The exponent of the leading decimal digit of a non-zero ratio. -/
def leadingExponent (a : Ratio) : Int :=
  let guess := (((a.num.log2 : Int) - a.den.log2) * 30103).fdiv 100000
  if (Ratio.power 10 (guess + 1)).le a then guess + 1
  else if (Ratio.power 10 guess).le a then guess
  else guess - 1

/-- The nearer of two neighbouring decimals of one grid. -/
def nearer (tie : Tie) (a : Ratio) (down up : Decimal) : Decimal :=
  let twice := Ratio.mk (2 * a.num) a.den
  let sum := (Ratio.mk (down.digits + up.digits) 1).mul (.power 10 down.exponent)
  if !sum.le twice then down
  else if !twice.le sum then up
  else match tie with
    | .up => up
    | .even => if down.digits % 2 = 0 then down else up

/-- Tries the grids of `count`, `count + 1`, … digits. -/
def searchGrids (tie : Tie) (a : Ratio) (i : RoundingInterval) (lead : Int) :
    (fuel count : Nat) → Decimal
  | 0, count =>
    let k := lead - count + 1
    ⟨(a.div (.power 10 k)).floor, k⟩
  | fuel + 1, count =>
    let k := lead - count + 1
    let down : Decimal := ⟨(a.div (.power 10 k)).floor, k⟩
    let up : Decimal := ⟨down.digits + 1, k⟩
    match i.contains down.ratio, i.contains up.ratio with
    | true, true => nearer tie a down up
    | true, false => down
    | false, true => up
    | false, false => searchGrids tie a i lead fuel (count + 1)

/-- The shortest decimal of the absolute value of `x`. -/
def Binary64.shortest (tie : Tie) (x : Binary64) : Decimal :=
  if x.isZero then ⟨0, 0⟩
  else
    let a := x.magnitude
    (searchGrids tie a (.of x) (leadingExponent a) 17 1).strip 20

end Loom.Number
