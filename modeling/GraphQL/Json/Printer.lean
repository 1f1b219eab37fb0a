import GraphQL.Json
import GraphQL.Decimal.Layout

/-! The compact text of a JSON value: no spaces, members in the order they have.

In strings only the quote, the backslash and the control characters below the
space are escaped; everything else stands for itself. -/
namespace GraphQL

/-- Doubles are positional from `10^-5` to below `10^16`. -/
def Number.layout : Decimal.Layout := ⟨-5, 15⟩

/-- The text of a number, as in a JSON document. -/
def Number.text : Number → String
  | .integer n => toString n
  | .double x => layout.text x

namespace Json

/-- Two hexadecimal digits, in lower case. -/
def hexPair (n : Nat) : String := String.ofList [Nat.digitChar (n / 16), Nat.digitChar (n % 16)]

def escape (c : Char) : String :=
  match c with
  | '"' => "\\\""
  | '\\' => "\\\\"
  | '\n' => "\\n"
  | '\r' => "\\r"
  | '\t' => "\\t"
  | '\x08' => "\\b"
  | '\x0c' => "\\f"
  | c => if c.toNat < 0x20 then "\\u00" ++ hexPair c.toNat else c.toString

def quote (s : String) : String := "\"" ++ String.join (s.toList.map escape) ++ "\""

mutual
def text : Json → String
  | .null => "null"
  | .bool b => if b then "true" else "false"
  | .number n => n.text
  | .string s => quote s
  | .array items => "[" ++ ",".intercalate (itemTexts items) ++ "]"
  | .object members => "\x7b" ++ ",".intercalate (memberTexts members) ++ "\x7d"

def itemTexts : List Json → List String
  | [] => []
  | v :: rest => text v :: itemTexts rest

def memberTexts : List (String × Json) → List String
  | [] => []
  | (key, v) :: rest => (quote key ++ ":" ++ text v) :: memberTexts rest
end

end Json

end GraphQL
