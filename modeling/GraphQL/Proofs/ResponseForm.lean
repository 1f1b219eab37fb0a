import GraphQL.Proofs.Resolution
import GraphQL.Report.Json

/-! What the response form of a report tells about the report.

A `Response` is the part of a report that goes into a response. It is written in one form
and read back from it (`Response.ofJson?_toJson`), so two reports have the same response
form exactly when that part of them is the same: their messages, locations, paths and
extensions (`Report.toJson_faithful`). Reading goes by keys and not by their order. What
is left out is told apart from what is there and empty, and a name in a path from a list
index that looks like it. -/
namespace GraphQL

/-! ### Reading what a response holds -/

/-- A string. -/
def Json.text? : Json → Option String
  | .string t => some t
  | _ => none

/-- An object's members. -/
def Json.members? : Json → Option (List (String × Json))
  | .object members => some members
  | _ => none

/-- A whole number that is not negative. -/
def Json.nat? : Json → Option Nat
  | .number (.integer (.ofNat n)) => some n
  | _ => none

/-- An array whose items can all be read. -/
def Json.list? {α : Type} (read? : Json → Option α) : Json → Option (List α)
  | .array items => items.mapM read?
  | _ => none

/-- What can be read, or null. -/
def Json.nullable? {α : Type} (read? : Json → Option α) : Json → Option (Option α)
  | .null => some none
  | v => (read? v).map some

/-- What can be read, or is not there. -/
def Json.optional? {α : Type} (read? : Json → Option α) : Option Json → Option (Option α)
  | none => some none
  | some v => (read? v).map some

theorem Json.nat?_eq_some {v : Json} {n : Nat} : v.nat? = some n ↔ v = .nat n := by
  constructor
  · intro h
    unfold nat? at h
    split at h
    · cases h
      rfl
    · cases h
  · rintro rfl
    rfl

section
variable {α : Type} {read? : Json → Option α} {write : α → Json}

/-- Lists are read back if their items are, -/
theorem Json.list?_array (h : ∀ a, read? (write a) = some a) (as : List α) :
    Json.list? read? (.array (as.map write)) = some as := by
  induction as with
  | nil => rfl
  | cons a rest ih =>
    have hrest : (rest.map write).mapM read? = some rest := ih
    show (write a :: rest.map write).mapM read? = some (a :: rest)
    rw [List.mapM_cons, h, hrest]
    rfl

/-- and from one value alone if their items are. -/
theorem Json.list?_eq_some (h : ∀ v a, read? v = some a ↔ v = write a) {v : Json} {as : List α} :
    v.list? read? = some as ↔ v = .array (as.map write) := by
  have hitems (items : List Json) (as : List α) (hread : items.mapM read? = some as) :
      items = as.map write := by
    induction items generalizing as with
    | nil =>
      cases hread
      rfl
    | cons item rest ih =>
      rw [List.mapM_cons] at hread
      obtain ⟨a, ha, hread⟩ := Option.bind_eq_some_iff.mp hread
      obtain ⟨later, hlater, hread⟩ := Option.bind_eq_some_iff.mp hread
      cases hread
      rw [List.map_cons, ← (h item a).mp ha, ← ih later hlater]
  constructor
  · intro hread
    cases v with
    | array items => exact congrArg Json.array (hitems items as hread)
    | _ => cases hread
  · rintro rfl
    exact list?_array (fun a => (h _ a).mpr rfl) as

end

namespace Text.Position

def ofJson? (v : Json) : Option Position := do
  let line ← v.member? "line" >>= Json.nat?
  let column ← v.member? "column" >>= Json.nat?
  return ⟨line, column⟩

theorem ofJson?_toJson (p : Position) : ofJson? p.toJson = some p := rfl

end Text.Position

namespace Segment

/-- Names are strings, and list indices numbers. -/
def ofJson? : Json → Option Segment
  | .string name => some (.key name)
  | v => v.nat?.map .index

theorem ofJson?_eq_some {v : Json} {s : Segment} : ofJson? v = some s ↔ v = s.toJson := by
  constructor
  · intro h
    unfold ofJson? at h
    split at h
    · cases h
      rfl
    · obtain ⟨n, hn, rfl⟩ := Option.map_eq_some_iff.mp h
      exact Json.nat?_eq_some.mp hn
  · rintro rfl
    cases s <;> rfl

/-- A response path. -/
def path? : Json → Option (List Segment) := Json.list? ofJson?

/-- A path is read from one value alone, which holds its segments in order. -/
theorem path?_eq_some {v : Json} {p : List Segment} :
    path? v = some p ↔ v = .array (p.map toJson) :=
  Json.list?_eq_some fun _ _ => ofJson?_eq_some

-- The name of a field and the index of a list item look the same as texts.
example : path? (.array [.string "1", .nat 1]) = some [.key "1", .index 1] := by decide

end Segment

/-! ### Responses -/

/-- What of a report goes into a response. -/
structure Response where
  message : String
  locations : Option (List Text.Position)
  path : Option (List Segment)
  extensions : Option Extensions

namespace Response

/-- Message and locations are written in any case, the others where they are there. -/
def toJson (w : Response) : Json :=
  .object
    ([("message", .string w.message),
        ("locations", (w.locations.map fun ps => .array (ps.map (·.toJson))).getD .null)] ++
      (w.path.map fun p => ("path", .array (p.map (·.toJson)))).toList ++
      (w.extensions.map fun e => ("extensions", .object e)).toList)

/-- Reads a response by its keys, whatever their order. -/
def ofJson? (v : Json) : Option Response := do
  let message ← v.member? "message" >>= Json.text?
  let locations ← v.member? "locations" >>= Json.nullable? (Json.list? Text.Position.ofJson?)
  let path ← Json.optional? Segment.path? (v.member? "path")
  let extensions ← Json.optional? Json.members? (v.member? "extensions")
  return ⟨message, locations, path, extensions⟩

variable (w : Response)

theorem member?_message : w.toJson.member? "message" = some (.string w.message) := rfl

theorem member?_locations :
    w.toJson.member? "locations" =
      some ((w.locations.map fun ps => .array (ps.map (·.toJson))).getD .null) := rfl

theorem member?_path :
    w.toJson.member? "path" = w.path.map fun p => .array (p.map (·.toJson)) := by
  obtain ⟨_, _, path, extensions⟩ := w
  cases path <;> cases extensions <;> rfl

theorem member?_extensions : w.toJson.member? "extensions" = w.extensions.map .object := by
  obtain ⟨_, _, path, extensions⟩ := w
  cases path <;> cases extensions <;> rfl

theorem locations_toJson :
    Json.nullable? (Json.list? Text.Position.ofJson?)
      ((w.locations.map fun ps => .array (ps.map (·.toJson))).getD .null) = some w.locations := by
  cases w.locations with
  | none => rfl
  | some ps =>
    have hps := Json.list?_array Text.Position.ofJson?_toJson ps
    exact congrArg (Option.map some) hps

/-- A response is read back from the form in which it is written. -/
theorem ofJson?_toJson : ofJson? w.toJson = some w := by
  have hpath : Json.optional? Segment.path? (w.path.map fun p => .array (p.map (·.toJson))) =
      some w.path := by
    cases w.path with
    | none => rfl
    | some p => exact congrArg (Option.map some) (Segment.path?_eq_some.mpr rfl)
  have hextensions : Json.optional? Json.members? (w.extensions.map .object) =
      some w.extensions := by
    cases w.extensions <;> rfl
  unfold ofJson?
  rw [member?_message, member?_locations, member?_path, member?_extensions, hpath, hextensions]
  show ((Json.nullable? _ _).bind _) = _
  rw [locations_toJson]
  rfl

theorem toJson_inj {w w' : Response} : w.toJson = w'.toJson ↔ w = w' := by
  refine ⟨fun h => Option.some.inj ?_, congrArg toJson⟩
  rw [← ofJson?_toJson w, h, ofJson?_toJson]

end Response

namespace Report

/-- The report's response. Locations that are there go in unless there are none of them. -/
def response (r : Report) : Response where
  message := r.message
  locations := r.locations?.filter fun ps => !ps.isEmpty
  path := r.path
  extensions := r.extensions

theorem response_locations (r : Report) : r.response.locations = r.locations? := by
  have hne := r.locations?_ne_some_nil
  unfold response
  cases h : r.locations? with
  | none => rfl
  | some ps =>
    cases ps with
    | nil => exact absurd h hne
    | cons p ps => rfl

theorem response_eq_iff {r r' : Report} :
    r.response = r'.response ↔ r.message = r'.message ∧ r.locations? = r'.locations? ∧
      r.path = r'.path ∧ r.extensions = r'.extensions := by
  rw [← response_locations r, ← response_locations r']
  exact Response.mk.injEq .. ▸ Iff.rfl

/-- A report is written as its response is. -/
theorem toJson_response (r : Report) : r.response.toJson = r.toJson := by
  unfold Response.toJson toJson
  rw [response_locations, locationsJson]
  cases r.locations? <;> rfl

/-- The members that the response form of a report has. -/
structure Written (r : Report) (v : Json) : Prop where
  message : v.member? "message" = some (.string r.message)
  /-- Locations are written in any case, and are null if there are none. -/
  locations : ∃ w, v.member? "locations" = some w ∧ (w = .null ↔ r.locations? = none)
  /-- A path is written if there is one, and is read back as that path. -/
  path : (v.member? "path").map Segment.path? = r.path.map some
  /-- Extensions are written if there are some, even without a member. -/
  extensions : v.member? "extensions" = r.extensions.map .object

theorem written_toJson (r : Report) : r.Written r.toJson where
  message := rfl
  locations := by
    refine ⟨r.locationsJson, rfl, ?_⟩
    unfold locationsJson
    cases r.locations? <;> simp
  path := by
    have hpath (p : List Segment) : Segment.path? (.array (p.map (·.toJson))) = some p :=
      Segment.path?_eq_some.mpr rfl
    rw [← toJson_response, Response.member?_path, Option.map_map]
    exact Option.map_congr fun p _ => hpath p
  extensions := by
    rw [← toJson_response]
    exact Response.member?_extensions _

/-- **Two reports have the same response form exactly when they have the same message,
locations, path and extensions**, after any facts and any replacement of extensions. The
form of a report is that of its response, has the members that it should, and is read back
as that response; and of a path it is the one form. -/
theorem toJson_faithful (message message' : String) (facts facts' : List Fact)
    (later later' : List (Option Extensions)) :
    let r := later.foldl withExtensions (ofFacts message facts)
    let r' := later'.foldl withExtensions (ofFacts message' facts')
    (r.response.toJson = r'.response.toJson ↔
        r.message = r'.message ∧ r.locations? = r'.locations? ∧ r.path = r'.path ∧
          r.extensions = r'.extensions) ∧
      r.toJson = r.response.toJson ∧
      r.Written r.toJson ∧
      Response.ofJson? r.toJson = some r.response ∧
      ∀ v p, Segment.path? v = some p ↔ v = .array (p.map Segment.toJson) := by
  intro r r'
  refine ⟨Response.toJson_inj.trans response_eq_iff, r.toJson_response.symm, r.written_toJson, ?_,
    fun _ _ => Segment.path?_eq_some⟩
  rw [← r.toJson_response]
  exact r.response.ofJson?_toJson

end Report

end GraphQL
