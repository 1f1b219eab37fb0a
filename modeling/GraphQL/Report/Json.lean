import GraphQL.Report
import GraphQL.Node.Json

/-! The response form of a report.

A report enters a response's list of errors as an object. Its message and its
locations are always written, the latter as null where there are none; a path and
extensions are written where they were given, even if empty. -/
namespace GraphQL

def Text.Position.toJson (p : Position) : Json :=
  .object [("line", .nat p.line), ("column", .nat p.column)]

/-- Names as strings, list indices as numbers. -/
def Segment.toJson : Segment → Json
  | .key name => .string name
  | .index i => .nat i

namespace Report

def locationsJson (r : Report) : Json :=
  match r.locations? with
  | none => .null
  | some ps => .array (ps.map (·.toJson))

def toJson (r : Report) : Json :=
  .object
    ([("message", .string r.message), ("locations", r.locationsJson)] ++
      (r.path.map fun p => ("path", .array (p.map (·.toJson)))).toList ++
      (r.extensions.map fun e => ("extensions", .object e)).toList)

/-- The response form as text. -/
def text (r : Report) : String := r.toJson.text

end Report

end GraphQL
