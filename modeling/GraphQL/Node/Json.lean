import GraphQL.Node
import GraphQL.Node.Record

/-! Nodes as JSON.

A node is an object: its kind, then its properties as its kind's record has them,
then its location. An optional child or a location that is not there is left out; a
sequence is always written. -/
namespace GraphQL

def Scalar.toJson : {s : Scalar} → s.Value → Json
  | .text, v | .numeral, v => .string v
  | .boolean, v | .flag, v => .bool v
  | .operation, v => .string (Operation.tag v)

/-- The bounds of a location; its document is not written. -/
def Location.toJson (l : Location) : Json := .object [("start", .nat l.start), ("end", .nat l.stop)]

/-- The member that holds a location. -/
def Location.members : Option Location → List (String × Json)
  | none => []
  | some l => [("loc", l.toJson)]

mutual
def Tree.toJson : {k : Kind} → Tree k → Json
  | k, .node entries location =>
    .object (("kind", .string k.record.tag) ::
      (k.record.write entries.jsons ++ Location.members location))

/-- What is written for each entry, if anything is. -/
def Entries.jsons : {slots : List Slot} → Entries slots → List (Option Json)
  | _, .nil => []
  | _, .cons entry rest => entry.json? :: rest.jsons

/-- What is written for an entry, if anything is. -/
def Entry.json? : {shape : Shape} → Entry shape → Option Json
  | _, .scalar value => some (Scalar.toJson value)
  | _, .required _ child => some child.toJson
  | _, .absent => none
  | _, .present _ child => some child.toJson
  | _, .sequence children => some (.array children.toJsons)

def Trees.toJsons : {c : Class} → Trees c → List Json
  | _, .nil => []
  | _, .cons _ child rest => child.toJson :: rest.toJsons
end

def Node.toJson (n : Node) : Json := n.tree.toJson

theorem Trees.toJsons_eq_map {c : Class} (ts : Trees c) :
    ts.toJsons = ts.toList.map fun n => n.1.toJson := by
  induction ts using Trees.listInduction with
  | nil => rfl
  | cons _ child rest ih => exact congrArg (child.toJson :: ·) ih

/-! ### Written under the slots' own properties -/

/-- The member that holds an entry, if anything is written for it. -/
def Entry.members {shape : Shape} (e : Entry shape) (property : String) : List (String × Json) :=
  (e.json?.map fun v => (property, v)).toList

/-- The members of the entries, each under the property of its slot. -/
def Entries.members : {slots : List Slot} → Entries slots → List (String × Json)
  | _, .nil => []
  | s :: _, .cons entry rest => entry.members s.property ++ rest.members

/-- An optional entry is the only one for which there may be nothing to write. -/
theorem Entry.write_member {s : Slot} (e : Entry s.shape) :
    s.member.write e.json? = e.members s.property := by
  obtain ⟨property, shape⟩ := s
  cases e <;> rfl

theorem Entries.write_members {slots : List Slot} (es : Entries slots) :
    (List.zipWith Member.write (slots.map Slot.member) es.jsons).flatten = es.members := by
  induction slots with
  | nil =>
    cases es
    rfl
  | cons s rest ih =>
    cases es with
    | cons e es =>
      rw [jsons, members, List.map_cons, List.zipWith_cons_cons, List.flatten_cons, e.write_member,
        ih es]

/-- A node is written as its kind, the members of its entries and its location. -/
theorem Tree.toJson_node {k : Kind} (es : Entries (grammar k)) (l : Option Location) :
    (Tree.node es l).toJson =
      .object ((kindProperty, .string k.tag) :: (es.members ++ Location.members l)) := by
  rw [Tree.toJson, Kind.record_eq, Record.write, es.write_members, kindProperty]

end GraphQL
