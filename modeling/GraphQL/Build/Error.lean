import GraphQL.Kind

/-! Why a fragment cannot be built.

Each cause names the kind of the fragment and the property at fault. -/
namespace GraphQL

inductive BuildError
  /-- Not an object with a string as its kind. -/
  | malformedFragment
  /-- No builder takes fragments with this tag. -/
  | unknownKind (tag : String)
  | missingProperty (kind : Kind) (property : String)
  /-- The property does not hold what is expected. -/
  | invalidProperty (kind : Kind) (property expected : String)
  /-- The child at the property has another kind than the slot takes. -/
  | unexpectedKind (kind : Kind) (property : String) (expected found : Kind)
deriving DecidableEq, Repr

namespace BuildError

def message : BuildError → String
  | .malformedFragment => "fragment is not an object carrying a string `kind`"
  | .unknownKind tag => "unknown node kind `" ++ tag ++ "`"
  | .missingProperty kind property =>
    kind.tag ++ " is missing required property `" ++ property ++ "`"
  | .invalidProperty kind property expected =>
    kind.tag ++ "." ++ property ++ " has an invalid value: expected " ++ expected
  | .unexpectedKind kind property expected found =>
    kind.tag ++ "." ++ property ++ " expects a " ++ expected.tag ++ " node, found " ++ found.tag

/-- The stable name of the cause. -/
def code : BuildError → String
  | .malformedFragment => "graphql::build::malformed_fragment"
  | .unknownKind _ => "graphql::build::unknown_node_kind"
  | .missingProperty _ _ => "graphql::build::missing_required_property"
  | .invalidProperty _ _ _ => "graphql::build::invalid_property_value"
  | .unexpectedKind _ _ _ _ => "graphql::build::unexpected_node_kind"

def help? : BuildError → Option String
  | .unknownKind _ => some "no registered builder supports this kind"
  | _ => none

end BuildError

end GraphQL
