import GraphQL.Decimal.Shortest

/-! Writing a double as text.

A number is written either positionally, always with a fraction (`100.0`), or with
an exponent that always carries its sign (`1.5e+16`). Which of the two is the
format's decision, a `Layout`; the digits are the shortest that name the value. -/
namespace GraphQL.Decimal

/-- The exponents, of the first digit, that are written positionally. -/
structure Layout where
  least : Int
  greatest : Int

/-- The digits without the zeros at their end, the first digit excepted. -/
def trimZeros : List Char → List Char
  | [] => []
  | d :: rest => d :: (rest.reverse.dropWhile (· == '0')).reverse

namespace Layout

/-- Puts the point between two runs of digits, and a zero after it where there is no
fraction. -/
def withFraction (whole fraction : List Char) : List Char :=
  whole ++ '.' :: (if fraction.isEmpty then ['0'] else fraction)

/-- The digits, the first of them at `10^exponent`, with the point in its place. -/
def positional (digits : List Char) (exponent : Int) : List Char :=
  if 0 ≤ exponent then
    let whole := exponent.toNat + 1
    let padding := List.replicate (whole - digits.length) '0'
    withFraction (digits.take whole ++ padding) (digits.drop whole)
  else withFraction ['0'] (List.replicate (-exponent - 1).toNat '0' ++ digits)

/-- One digit before the point, and no point where nothing follows it. -/
def scientific (digits : List Char) (exponent : Int) : List Char :=
  let sign := if exponent < 0 then '-' else '+'
  let fraction := digits.drop 1
  digits.take 1 ++ (if fraction.isEmpty then [] else '.' :: fraction) ++
    'e' :: sign :: Nat.toDigits 10 exponent.natAbs

def magnitude (layout : Layout) (x : Double) : List Char :=
  if x.rank = 0 then ['0', '.', '0']
  else
    let d := x.shortest
    let digits := Nat.toDigits 10 d.value
    let exponent := d.place + digits.length - 1
    if layout.least ≤ exponent ∧ exponent ≤ layout.greatest then
      positional (trimZeros digits) exponent
    else scientific (trimZeros digits) exponent

/-- The text of a double; zero keeps its sign. -/
def text (layout : Layout) (x : Double) : String :=
  String.ofList (if x.negative then '-' :: layout.magnitude x else layout.magnitude x)

end Layout

end GraphQL.Decimal
