/-! Finite double-precision numbers, exactly.

A double is a sign and a rank: the non-negative doubles in increasing order are
ranks 0, 1, 2, …, which is also how their bits read as a number. A rank stands
for `significand · 2^exponent`, so every comparison and every rounding below is
arithmetic on natural numbers. -/
namespace GraphQL.Decimal

/-- A finite double. Ranks from `Double.bound` on are too large for the format. -/
structure Double where
  negative : Bool
  rank : Nat
deriving DecidableEq, Repr

namespace Double

/-- The exponent of the smallest doubles. -/
def leastExponent : Int := -1074

/-- How many doubles share an exponent. -/
def binade : Nat := Nat.pow 2 52

/-- The rank of infinity. -/
def bound : Nat := 2047 * binade

def isFinite (x : Double) : Bool := decide (x.rank < bound)

def significand (x : Double) : Nat :=
  if x.rank < binade then x.rank else binade + x.rank % binade

/-- The first two binades hold multiples of the same power of two; every later
one doubles the step. -/
def exponent (x : Double) : Int := leastExponent + (x.rank / binade - 1 : Nat)

/-! ### Rounding -/

/-- The whole number nearest to `num / den`, of two equally near the even one. -/
def roundHalfEven (num den : Nat) : Nat :=
  let floor := num / den
  let rest := num % den
  if 2 * rest < den then floor
  else if den < 2 * rest then floor + 1
  else if floor % 2 = 0 then floor else floor + 1

/-- The fraction `num / den` divided by `2^q`. -/
def scaled (num den : Nat) (q : Int) : Nat × Nat :=
  if 0 ≤ q then (num, den * Nat.pow 2 q.toNat) else (num * Nat.pow 2 (-q).toNat, den)

/-- The exponent at which `num / den` keeps 53 binary digits, or the least one. -/
def roundingExponent (num den : Nat) : Int :=
  let guess : Int := (num.log2 : Int) - den.log2 - 53
  let fraction := scaled num den guess
  let q := if fraction.1 / fraction.2 < 2 * binade then guess else guess + 1
  max q leastExponent

/-- The rank of the double nearest to `num / den`. A significand rounded up to
the next power of two lands on the first rank of the next binade by itself. -/
def nearestRank (num den : Nat) : Nat :=
  if num = 0 then 0
  else
    let q := roundingExponent num den
    let fraction := scaled num den q
    roundHalfEven fraction.1 fraction.2 + (q - leastExponent).toNat * binade

/-! ### Arithmetic on magnitudes -/

/-- The magnitude as a fraction. -/
def magnitude (x : Double) : Nat × Nat :=
  if 0 ≤ x.exponent then (x.significand * Nat.pow 2 x.exponent.toNat, 1)
  else (x.significand, Nat.pow 2 (-x.exponent).toNat)

def ofNat (n : Nat) : Double := ⟨false, nearestRank n 1⟩

def mul (x y : Double) : Double :=
  let a := x.magnitude
  let b := y.magnitude
  ⟨x.negative != y.negative, nearestRank (a.1 * b.1) (a.2 * b.2)⟩

/-- The quotient by a double that is not zero. -/
def div (x y : Double) : Double :=
  let a := x.magnitude
  let b := y.magnitude
  ⟨x.negative != y.negative, nearestRank (a.1 * b.2) (a.2 * b.1)⟩

end Double

end GraphQL.Decimal
