import GraphQL.Decimal.Double

/-! Reading a decimal as a double.

The leading digits that fit in 64 bits are kept, the others only count towards
the power of ten. The kept digits become a double, which is multiplied or divided
by the double of that power; each of these steps rounds to nearest. Powers below
`10^-308` are divided out in two steps. -/
namespace GraphQL.Decimal

/-- Digits `0`–`9`. -/
def digit? (c : Char) : Option Nat := if c.isDigit then some (c.toNat - '0'.toNat) else none

/-- A significand of at most 64 bits and the digits that no longer fit. -/
def keepDigits (kept : Nat) : List Nat → Nat × List Nat
  | [] => (kept, [])
  | d :: rest =>
    if kept * 10 + d < Nat.pow 2 64 then keepDigits (kept * 10 + d) rest else (kept, d :: rest)

/-- The digits kept of a whole part and a fraction, and the power of ten they are
counted in. -/
def keptOf (whole fraction : List Nat) : Nat × Int :=
  let (kept, dropped) := keepDigits 0 whole
  let (kept, unused) := keepDigits kept fraction
  (kept, (dropped.length : Int) - (fraction.length - unused.length : Nat))

namespace Double

def powerOfTen (n : Nat) : Double := ofNat (Nat.pow 10 n)

/-- The greatest power of ten that is a double. -/
def greatestPower : Nat := 308

/-- The product `x · 10^exponent`, unless it is too large. -/
def timesPowerOfTen? (x : Double) (exponent : Int) : Option Double :=
  if x.rank = 0 then some x
  else if 0 ≤ exponent then
    if exponent ≤ greatestPower then
      let y := x.mul (powerOfTen exponent.toNat)
      if y.isFinite then some y else none
    else none
  else
    let n := (-exponent).toNat
    if n ≤ greatestPower then some (x.div (powerOfTen n))
    else
      let rest := min (n - greatestPower) greatestPower
      some ((x.div (powerOfTen greatestPower)).div (powerOfTen rest))

/-- The double read from a sign, digits before and after the point, and an exponent. -/
def ofDigits? (negative : Bool) (whole fraction : List Nat) (exponent : Int) : Option Double :=
  let (kept, power) := keptOf whole fraction
  ((ofNat kept).timesPowerOfTen? (power + exponent)).map fun x => { x with negative := negative }

end Double

end GraphQL.Decimal
