import GraphQL.Decimal.Double

/-! The fewest decimal digits that still name a double.

A decimal names a double when it lies between the halfway points to the two
neighbours, the halfway points included for an even significand. `shortest`
tries one digit, then two, and so on: on each grid only the two neighbours of
the value matter, and of two that name it the nearer wins.

Everything is measured in units of `2^-1076 · 10^-345`, in which the doubles, the
halfway points and every decimal tried are whole numbers. -/
namespace GraphQL.Decimal

/-- The decimal `value · 10^place`. -/
structure Digits where
  value : Nat
  place : Int
deriving DecidableEq, Repr

namespace Double

/-- Half the distance to the next larger double, in units. -/
def halfGap (x : Double) : Nat := Nat.pow 2 (x.exponent + 1075).toNat * Nat.pow 10 345

/-- The magnitude, in units. -/
def inUnits (x : Double) : Nat := 2 * x.significand * x.halfGap

/-- Half the distance to the next smaller double: half as much again where the
exponent steps down. -/
def halfGapBelow (x : Double) : Nat :=
  if x.significand = binade ∧ leastExponent < x.exponent then x.halfGap / 2 else x.halfGap

/-- Whether a decimal at this distance below the value names it. -/
def namedFromBelow (x : Double) (distance : Nat) : Bool :=
  distance < x.halfGapBelow || (distance == x.halfGapBelow && x.significand % 2 == 0)

/-- Whether a decimal at this distance above the value names it. -/
def namedFromAbove (x : Double) (distance : Nat) : Bool :=
  distance < x.halfGap || (distance == x.halfGap && x.significand % 2 == 0)

/-- The multiple of `grid` that names the value, if one does: the nearer of the
two neighbours, of two equally near the even one. -/
def onGrid? (x : Double) (grid : Nat) : Option Nat :=
  let below := x.inUnits / grid
  let rest := x.inUnits % grid
  let down := x.namedFromBelow rest
  let up := x.namedFromAbove (grid - rest)
  match down, up with
  | false, false => none
  | true, false => some below
  | false, true => some (below + 1)
  | true, true =>
    if 2 * rest < grid ∨ (2 * rest = grid ∧ below % 2 = 0) then some below else some (below + 1)

/-- The first of the next `tries` grids, each ten times finer, with a decimal that
names the value; failing that, the value cut to the last grid. -/
def search (x : Double) (grid : Nat) (place : Int) : Nat → Digits
  | 0 => ⟨x.inUnits / grid, place⟩
  | tries + 1 =>
    match x.onGrid? grid with
    | some digits => ⟨digits, place⟩
    | none => search x (grid / 10) (place - 1) tries

/-- The place of the first digit, counted from `10^-345`. -/
def leadingPlace (x : Double) : Nat := (Nat.toDigits 10 (x.inUnits / Nat.pow 2 1076)).length - 1

/-- The shortest decimal that names a double other than zero. Seventeen digits
always suffice. -/
def shortest (x : Double) : Digits :=
  search x (Nat.pow 2 1076 * Nat.pow 10 x.leadingPlace) (x.leadingPlace - 345) 17

end Double

end GraphQL.Decimal
