/-!
# Double-precision numbers

A finite double is a sign, a mantissa and a power of two; `Binary64.round` takes a ratio to the
nearest one, a tie to the even mantissa. All arithmetic is exact on natural numbers, and the only
inexact step is that one rounding.
-/

namespace Loom.Number

/-- The finite double `± mantissa * 2 ^ exponent`. A mantissa below `2 ^ 52` has the least
exponent, `-1074`. -/
structure Binary64 where
  negative : Bool
  mantissa : Nat
  exponent : Int
  deriving DecidableEq, Repr

/-- A ratio of natural numbers, read as zero when `den` is. -/
structure Ratio where
  num : Nat
  den : Nat
  deriving DecidableEq, Repr

namespace Ratio

def mul (a b : Ratio) : Ratio := ⟨a.num * b.num, a.den * b.den⟩

def div (a b : Ratio) : Ratio := ⟨a.num * b.den, a.den * b.num⟩

/-- `base ^ k` for an exponent of either sign. -/
def power (base : Nat) (k : Int) : Ratio :=
  if 0 ≤ k then ⟨base.pow k.toNat, 1⟩ else ⟨1, base.pow (-k).toNat⟩

def le (a b : Ratio) : Bool := a.num * b.den ≤ b.num * a.den

/-- The greatest natural number not above the ratio. -/
def floor (a : Ratio) : Nat := a.num / a.den

/-- The nearest natural number, a half going to the even one. -/
def nearestEven (a : Ratio) : Nat :=
  let q := a.num / a.den
  let r := a.num % a.den
  if 2 * r > a.den || (2 * r == a.den && q % 2 == 1) then q + 1 else q

end Ratio

namespace Binary64

def zero (negative : Bool) : Binary64 := ⟨negative, 0, -1074⟩

def isZero (x : Binary64) : Bool := x.mantissa == 0

/-- The absolute value as a ratio. -/
def magnitude (x : Binary64) : Ratio := (Ratio.mk x.mantissa 1).mul (.power 2 x.exponent)

/-- The exponent under which the mantissa of `a` has 53 bits, and at least `-1074`. -/
def exponentFor (a : Ratio) : Int :=
  let guess := (a.num.log2 : Int) - a.den.log2 - 52
  let e := if (a.div (.power 2 guess)).floor < Nat.pow 2 52 then guess - 1 else guess
  max e (-1074)

/-- The double nearest to `± a`; none when that would be infinite. -/
def round (negative : Bool) (a : Ratio) : Option Binary64 :=
  if a.num = 0 then some (zero negative)
  else
    let e := exponentFor a
    let m := (a.div (.power 2 e)).nearestEven
    let x : Binary64 :=
      if m = Nat.pow 2 53 then ⟨negative, Nat.pow 2 52, e + 1⟩ else ⟨negative, m, e⟩
    if x.exponent > 971 then none else some x

end Binary64

end Loom.Number
