import GraphQL.Build.Error
import GraphQL.Grammar
import GraphQL.Json.Printer
import GraphQL.Source

/-! Fragments, and reading scalars from them.

A fragment is a JSON object whose `kind` is the tag of a kind. A property that is
null counts as left out. Readers work at a `Site`, the kind and the property that
an error names; they are given the property's value if there is one. -/
namespace GraphQL

/-- A value as a byte offset: an integer that is one, so `3` but not `3.0`. -/
def Json.offset? : Json → Option Nat
  | .number (.integer (.ofNat n)) => if n < offsetBound then some n else none
  | _ => none

/-- Where a value is looked for. -/
structure Site where
  kind : Kind
  property : String

namespace Site

def missing (s : Site) : BuildError := .missingProperty s.kind s.property
def invalid (s : Site) (expected : String) : BuildError :=
  .invalidProperty s.kind s.property expected

/-- The value, which has to be there. -/
def require {α : Type} (s : Site) : Option α → Except BuildError α
  | some a => .ok a
  | none => .error s.missing

/-- A string, if anything. -/
def text? (s : Site) : Option Json → Except BuildError (Option String)
  | none => .ok none
  | some (.string t) => .ok (some t)
  | some _ => .error (s.invalid "string")

def text (s : Site) (value : Option Json) : Except BuildError String :=
  s.text? value >>= s.require

/-- A boolean, if anything. -/
def boolean? (s : Site) : Option Json → Except BuildError (Option Bool)
  | none => .ok none
  | some (.bool b) => .ok (some b)
  | some _ => .error (s.invalid "boolean")

def boolean (s : Site) (value : Option Json) : Except BuildError Bool :=
  s.boolean? value >>= s.require

/-- A boolean with a default for where it is left out. -/
def flag (s : Site) (absent : Bool) (value : Option Json) : Except BuildError Bool :=
  (·.getD absent) <$> s.boolean? value

/-- A numeric literal, as text. -/
def numeral (s : Site) : Option Json → Except BuildError String
  | none => .error s.missing
  | some (.string t) => .ok t
  | some (.number n) => .ok n.text
  | some _ => .error (s.invalid "numeric literal")

def operation (s : Site) (value : Option Json) : Except BuildError Operation := do
  match Operation.ofTag? (← s.text value) with
  | some o => return o
  | none => throw (s.invalid "query, mutation or subscription")

def scalar (s : Site) (value : Option Json) : (c : Scalar) → Except BuildError c.Value
  | .text => s.text value
  | .numeral => s.numeral value
  | .boolean => s.boolean value
  | .flag => s.flag false value
  | .operation => s.operation value

/-- A location, where both of its tokens are given as offsets. -/
def location (s : Site) (source : Source) : Option Json → Except BuildError (Option Location)
  | none => .ok none
  | some v =>
    match v.member? "startToken" >>= Json.offset?, v.member? "endToken" >>= Json.offset? with
    | some start, some stop =>
      match Location.ofBounds? start stop source with
      | some l => .ok (some l)
      | none => .error (s.invalid "start <= end")
    | _, _ => .ok none

end Site

/-- An object whose kind is known. -/
structure Fragment where
  kind : Kind
  members : List (String × Json)

namespace Fragment

/-- The kind that an object names. -/
def kindOf (members : List (String × Json)) : Except BuildError Kind :=
  match members.lookup kindProperty with
  | some (.string tag) =>
    match Kind.ofTag? tag with
    | some k => .ok k
    | none => .error (.unknownKind tag)
  | _ => .error .malformedFragment

def ofJson : Json → Except BuildError Fragment
  | .object members => (Fragment.mk · members) <$> kindOf members
  | _ => .error .malformedFragment

/-- The value of a property; null counts as none. -/
def get? (f : Fragment) (property : String) : Option Json :=
  match f.members.lookup property with
  | some .null => none
  | value => value

def getD (f : Fragment) (property : String) (absent : Json) : Json := (f.get? property).getD absent

def site (f : Fragment) (property : String) : Site := ⟨f.kind, property⟩

def text? (f : Fragment) (property : String) : Except BuildError (Option String) :=
  (f.site property).text? (f.get? property)

def text (f : Fragment) (property : String) : Except BuildError String :=
  (f.site property).text (f.get? property)

def flag (f : Fragment) (property : String) (absent : Bool) : Except BuildError Bool :=
  (f.site property).flag absent (f.get? property)

def boolean (f : Fragment) (property : String) : Except BuildError Bool :=
  (f.site property).boolean (f.get? property)

end Fragment

end GraphQL
