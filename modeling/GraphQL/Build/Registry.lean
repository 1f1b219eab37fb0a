import GraphQL.Build.Arms
import GraphQL.Text.Quoted

/-! Builders and the registry that dispatches to them.

A builder has a name, claims some kinds, and has the arms of one area of the
grammar; what it claims and what it has an arm for may differ. A registry
is a list of builders of which no two claim one kind, so that every kind has at
most one builder to go to. -/
namespace GraphQL

structure Builder where
  name : String
  claims : List Kind
  area : Area
deriving DecidableEq, Repr

namespace Builder

def supports (b : Builder) (k : Kind) : Bool := b.claims.contains k

/-- Whether the builder can build a kind, should it get there. -/
def builds (b : Builder) (k : Kind) : Bool := (b.area.arm? k).isSome

/-- The builder of an area. -/
def ofArea (a : Area) : Builder := ⟨a.name, a.kinds, a⟩

end Builder

/-- Why a list of builders is no registry. -/
inductive RegistryError
  | duplicateBuilder (kind : Kind) (first second : String)
deriving DecidableEq, Repr

namespace RegistryError

def message : RegistryError → String
  | .duplicateBuilder kind first second =>
    "builders `" ++ first ++ "` and `" ++ second ++ "` both claim kind " ++ kind.tag

def code : RegistryError → String
  | .duplicateBuilder _ _ _ => "graphql::registry::duplicate_builder"

end RegistryError

/-- The first kind that two builders claim, with the first two that do. -/
def conflict? (builders : List Builder) : Option RegistryError :=
  Kind.all.findSome? fun k =>
    match builders.filter (·.supports k) with
    | first :: second :: _ => some (.duplicateBuilder k first.name second.name)
    | _ => none

structure Registry where
  builders : List Builder
  unambiguous : conflict? builders = none

namespace Registry

def ofBuilders (builders : List Builder) : Except RegistryError Registry :=
  match h : conflict? builders with
  | none => .ok ⟨builders, h⟩
  | some e => .error e

/-- One builder per area; together they claim every kind. -/
def standard : Registry := ⟨Area.all.map Builder.ofArea, by decide⟩

/-- The builder that claims a kind. -/
def claimant? (r : Registry) (k : Kind) : Option Builder := r.builders.find? (·.supports k)

def supports (r : Registry) (k : Kind) : Bool := (r.claimant? k).isSome

/-- The claimed kinds, in order of declaration. -/
def supported (r : Registry) : List Kind := Kind.all.filter r.supports

/-- A one-line summary: the builders' names and how many kinds they claim. -/
def summary (r : Registry) : String :=
  "Director \x7b builders: [" ++ ", ".intercalate (r.builders.map fun b => Text.quoted b.name) ++
    "], kinds: " ++ toString r.supported.length ++ " \x7d"

end Registry

end GraphQL
