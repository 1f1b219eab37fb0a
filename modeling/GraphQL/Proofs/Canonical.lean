import GraphQL.Node.Json
import GraphQL.Proofs.Productions

/-! The canonical form of a fragment, and what building keeps of it.

`Json.canonical` rewrites a fragment by the production with its tag and knows of no
nodes: it keeps the tag, the production's properties in the table's order and the
location where both tokens are there, and drops everything else. `toJson_build`
says that a value that builds is written back as its canonical form, so nothing of
it is lost, doubled, moved or made up. -/
namespace GraphQL

/-! ### The canonical form -/

/-- The canonical form of what stands at a property, given the value there and the
value's own canonical form: a number as text, and a flag and a sequence always there. -/
def Requirement.canonical : Requirement → (value canonical : Option Json) → Option Json
  | .numeral, some (.number n), _ => some (.string n.text)
  | .flag, none, _ => some (.bool false)
  | .text, value, _ | .numeral, value, _ | .boolean, value, _ | .flag, value, _
  | .operation, value, _ => value
  | .child _, _, canonical | .childIfAny _, _, canonical => canonical
  | .children _, _, canonical => some (canonical.getD (.array []))

/-- The property in the canonical form, if something is there. -/
def Property.canonical (p : Property) (value canonical : Option Json) : Option (String × Json) :=
  (p.requirement.canonical value canonical).map fun v => (p.name, v)

/-- The production with a tag. -/
def Production.ofTag? (tag : String) : Option Production :=
  (Kind.all.map Kind.production).find? (·.tag == tag)

theorem Kind.ofTag?_production (k : Kind) : Production.ofTag? k.tag = some k.production := by
  cases k <;> decide

namespace Json

/-- The member for the location, if both of its tokens are there. -/
def canonicalLocation (v : Json) : List (String × Json) :=
  (v.span?.map fun (start, stop) =>
    ("loc", .object [("start", .nat start), ("end", .nat stop)])).toList

/-- The production of the fragment's tag, put together from the canonical forms of
what stands at each property. -/
def reassemble (v : Json) (canonical? : String → Option Json) : Json :=
  match v.member? "kind" with
  | some (.string tag) =>
    match Production.ofTag? tag with
    | some p =>
      .object (("kind", .string tag) ::
        (p.properties.filterMap (fun p => p.canonical (v.property? p.name) (canonical? p.name)) ++
          v.canonicalLocation))
    | none => v
  | _ => v

mutual
/-- The canonical form of a fragment, or of an array of fragments. -/
def canonical : Json → Json
  | .object members => reassemble (.object members) (Json.object (canonicalMembers members)).property?
  | .array items => .array (canonicalItems items)
  | v => v
termination_by structural v => v

def canonicalItems : List Json → List Json
  | [] => []
  | v :: rest => v.canonical :: canonicalItems rest
termination_by structural items => items

def canonicalMembers : List (String × Json) → List (String × Json)
  | [] => []
  | (property, v) :: rest => (property, v.canonical) :: canonicalMembers rest
termination_by structural members => members
end

theorem canonicalItems_eq_map (items : List Json) : canonicalItems items = items.map canonical := by
  induction items with
  | nil => rfl
  | cons v rest ih => rw [canonicalItems, ih, List.map_cons]

theorem lookup_canonicalMembers (members : List (String × Json)) (property : String) :
    (canonicalMembers members).lookup property = (members.lookup property).map canonical := by
  induction members with
  | nil => rfl
  | cons m rest ih =>
    obtain ⟨key, v⟩ := m
    rw [canonicalMembers, List.lookup_cons, List.lookup_cons, ih]
    split <;> rfl

theorem canonical_eq_null {v : Json} : v.canonical = .null ↔ v = .null := by
  cases v with
  | object members =>
    unfold canonical reassemble
    split
    · split <;> simp
    · simp
  | _ => simp [canonical]

theorem property?_canonicalMembers (members : List (String × Json)) :
    (Json.object (canonicalMembers members)).property? =
      fun property => ((Json.object members).property? property).map canonical := by
  funext property
  exact property?_map (fun _ => canonical_eq_null) (lookup_canonicalMembers members property)

/-- The canonical form of a fragment, property by property. -/
theorem canonical_tagged {v : Json} {k : Kind} (h : v.Tagged k) :
    v.canonical = .object ((kindProperty, .string k.tag) ::
      (k.production.properties.filterMap (fun p =>
        p.canonical (v.property? p.name) ((v.property? p.name).map canonical)) ++
          v.canonicalLocation)) := by
  cases v with
  | object members =>
    have hkind : (Json.object members).member? "kind" = some (.string k.tag) := h
    unfold canonical reassemble
    simp only [hkind, k.ofTag?_production, property?_canonicalMembers, kindProperty]
  | _ => cases h

end Json

/-! ### What building keeps -/

namespace Context

variable {cx : Context} {v : Json}

/-- What is written for an entry is the canonical form of the value it was read from, if
that holds of the children there. -/
theorem canonical_of_fills {r : Requirement} {value : Option Json} {e : Entry r.shape}
    (h : cx.Fills value e)
    (hchild : ∀ c, Json.Stands c value → ∀ n, cx.build c = .ok n → n.toJson = c.canonical) :
    r.canonical value (value.map Json.canonical) = e.json? := by
  cases r with
  | text | numeral | boolean | flag | operation =>
    cases h with
    | scalar reads => cases reads <;> rfl
  | child c =>
    cases h with
    | required admits built => exact congrArg some (hchild _ .alone _ built).symm
  | childIfAny c =>
    cases h with
    | absent => rfl
    | present admits built => exact congrArg some (hchild _ .alone _ built).symm
  | children c =>
    cases h with
    | noItems => rfl
    | @items _ items children built =>
      have hjsons : children.toJsons = items.map Json.canonical := by
        rw [children.toJsons_eq_map, ← List.forall₂_eq_eq_eq, List.forall₂_map_left_iff,
          List.forall₂_map_right_iff]
        have hmem : ∀ v ∈ items, v ∈ items := fun _ hv => hv
        exact ((List.forall₂_and_left _ _).mpr ⟨hmem, built⟩).flip.imp fun n v hv =>
          hchild v (.item hv.1) n.1 hv.2
      show some (Json.array (Json.canonicalItems items)) = some (Json.array children.toJsons)
      rw [hjsons, Json.canonicalItems_eq_map]

/-- Entries are written as the canonical forms of the values they were read from, the
values being those at the properties of their slots. -/
theorem members_of_fillsAll {properties : List Property} {slots : List Slot}
    (hslots : properties.map Property.slot = slots) {es : Entries slots} (h : cx.FillsAll v es)
    (hchild : ∀ c, Json.Child c v → ∀ n, cx.build c = .ok n → n.toJson = c.canonical) :
    es.members = properties.filterMap fun p =>
      p.canonical (v.property? p.name) ((v.property? p.name).map Json.canonical) := by
  subst hslots
  induction properties with
  | nil =>
    cases es
    rfl
  | cons p rest ih =>
    cases es with
    | cons e es =>
      have he : p.requirement.canonical (v.property? p.name)
          ((v.property? p.name).map Json.canonical) = e.json? :=
        canonical_of_fills h.1 fun c hc => hchild c ⟨p.name, hc⟩
      rw [Entries.members, ih h.2, List.filterMap_cons, Property.canonical, he, Entry.members]
      cases e.json? <;> rfl

theorem members_of_locates {l : Option Location} (h : cx.Locates v l) :
    Location.members l = v.canonicalLocation := by
  unfold Json.canonicalLocation
  rw [h.1]
  cases l <;> rfl

/-- What a value builds to is written as the value's canonical form, whatever the
registry. -/
theorem toJson_build (cx : Context) (v : Json) :
    ∀ n, cx.build v = .ok n → n.toJson = v.canonical := by
  induction v using Json.childInduction with
  | step v ih =>
    intro n h
    obtain ⟨k, ⟨es, l⟩⟩ := n
    obtain ⟨-, htag, hes, hl⟩ := cx.build_eq_ok.mp h
    show (Tree.node es l).toJson = _
    rw [Tree.toJson_node, Json.canonical_tagged htag, members_of_fillsAll k.production_slots hes ih,
      members_of_locates hl]

end Context

/-- **Encoding what a value decodes to gives the value's canonical form.** -/
theorem toJson_ofJson {source : Source} {v : Json} {n : Node} (h : Node.ofJson source v = .ok n) :
    n.toJson = v.canonical := Context.toJson_build _ v n h

/-- A list with a number for a literal, a location with one token, a flag that is
null and a property that the table does not have. -/
def Json.unpolishedList : Json :=
  .object [("values", .array [
      .object [("kind", .string "IntValue"), ("value", .nat 3),
        ("loc", .object [("startToken", .nat 1), ("endToken", .nat 2)])],
      .object [("kind", .string "StringValue"), ("block", .null), ("value", .string "a"),
        ("loc", .object [("startToken", .nat 4)])]]),
    ("kind", .string "ListValue"), ("raw", .bool true)]

theorem toJson_ofJson_unpolishedList :
    ∃ n, Node.ofJson (.ofBody "[3, a]") Json.unpolishedList = .ok n ∧
      n.toJson = Json.unpolishedList.canonical ∧
      Json.unpolishedList.canonical = .object [("kind", .string "ListValue"), ("values", .array [
        .object [("kind", .string "IntValue"), ("value", .string "3"),
          ("loc", .object [("start", .nat 1), ("end", .nat 2)])],
        .object [("kind", .string "StringValue"), ("value", .string "a"),
          ("block", .bool false)]])] :=
  ⟨_, rfl, toJson_ofJson rfl, by decide⟩

end GraphQL
