import GraphQL.Node.Json
import GraphQL.Proofs.Reading
import GraphQL.Proofs.Relocation

/-! Reading back what was written.

Written nodes say where they stand by `start` and `end`, fragments by `startToken`
and `endToken`. So a written node builds to itself without its locations, and once
the bounds are renamed (`Json.retoken`) to itself with its locations moved to the
document it is built over. Both are `Context.build_rewritten`: a rewriting of JSON
that touches nothing but locations is undone by building, up to what becomes of
the locations. -/
namespace GraphQL

/-! ### What stands in a written node -/

namespace Entry

variable {shape : Shape}

theorem lookup_members_self (e : Entry shape) (property : String) :
    (e.members property).lookup property = e.json? := by
  unfold members
  cases e.json? with
  | none => rfl
  | some v => exact List.lookup_cons_self

theorem lookup_members_ne (e : Entry shape) {p property : String} (h : p ≠ property) :
    (e.members property).lookup p = none := by
  unfold members
  cases e.json? with
  | none => rfl
  | some v =>
    have hp : (p == property) = false := beq_eq_false_iff_ne.mpr h
    simp [List.lookup_cons, hp]

end Entry

theorem Tree.toJson_ne_null {k : Kind} (t : Tree k) : t.toJson ≠ .null := by
  intro h
  cases t
  cases h

theorem Entry.json?_ne_null {shape : Shape} (e : Entry shape) : e.json? ≠ some .null := by
  intro h
  cases e with
  | @scalar s value => cases s <;> cases h
  | required _ child => exact child.toJson_ne_null (Option.some.inj h)
  | absent => cases h
  | present _ child => exact child.toJson_ne_null (Option.some.inj h)
  | sequence => cases h

namespace Entries

theorem Each.imp {P Q : (s : Slot) → Entry s.shape → Prop} {slots : List Slot}
    {es : Entries slots} (h : es.Each P) (hPQ : ∀ s ∈ slots, ∀ e, P s e → Q s e) : es.Each Q := by
  induction slots with
  | nil =>
    cases es
    trivial
  | cons s rest ih =>
    cases es with
    | cons e es =>
      have hrest : ∀ t ∈ rest, ∀ e, P t e → Q t e := fun t ht => hPQ t (List.mem_cons_of_mem s ht)
      exact ⟨hPQ s (List.mem_cons_self ..) e h.1, ih h.2 hrest⟩

theorem each_relocate {P : (s : Slot) → Entry s.shape → Prop} {f : Location → Option Location}
    {slots : List Slot} {es : Entries slots} (h : es.Each fun s e => P s (e.relocate f)) :
    (es.relocate f).Each P := by
  induction slots with
  | nil =>
    cases es
    trivial
  | cons s rest ih =>
    cases es with
    | cons e es => exact ⟨h.1, ih h.2⟩

theorem lookup_members_eq_none {slots : List Slot} (es : Entries slots) {p : String}
    (h : p ∉ slots.map (·.property)) : es.members.lookup p = none := by
  induction slots with
  | nil =>
    cases es
    rfl
  | cons s rest ih =>
    cases es with
    | cons e es =>
      rw [List.map_cons, List.mem_cons, not_or] at h
      rw [members, List.lookup_append, e.lookup_members_ne h.1, ih es h.2]
      rfl

/-- With no property named twice, each slot's property holds what is written for
the slot's entry. -/
theorem lookup_members {slots : List Slot} (es : Entries slots)
    (hnodup : (slots.map (·.property)).Nodup) :
    es.Each fun s e => es.members.lookup s.property = e.json? := by
  induction slots with
  | nil =>
    cases es
    trivial
  | cons s rest ih =>
    cases es with
    | cons e es =>
      rw [List.map_cons, List.nodup_cons] at hnodup
      constructor
      · show (e.members s.property ++ es.members).lookup s.property = e.json?
        rw [List.lookup_append, e.lookup_members_self, es.lookup_members_eq_none hnodup.1,
          Option.or_none]
      · refine (ih es hnodup.2).imp fun t ht a ha => ?_
        have hne : t.property ≠ s.property := by
          intro h
          apply hnodup.1
          rw [← h]
          exact List.mem_map_of_mem ht
        show (e.members s.property ++ es.members).lookup t.property = a.json?
        rw [List.lookup_append, e.lookup_members_ne hne, Option.none_or, ha]

end Entries

namespace Tree

variable {k : Kind} (es : Entries (grammar k)) (l : Option Location)

theorem tagged_toJson : (Tree.node es l).toJson.Tagged k := by
  rw [toJson_node]
  show ((kindProperty, Json.string k.tag) :: (es.members ++ Location.members l)).lookup
    kindProperty = _
  rw [List.lookup_cons_self]

/-- Away from the kind, a written node holds the members of its entries and its location. -/
theorem member?_toJson {p : String} (h : p ≠ kindProperty) :
    (Tree.node es l).toJson.member? p = (es.members ++ Location.members l).lookup p := by
  have hp : (p == kindProperty) = false := beq_eq_false_iff_ne.mpr h
  rw [toJson_node]
  show ((kindProperty, Json.string k.tag) :: (es.members ++ Location.members l)).lookup p = _
  rw [List.lookup_cons, hp]

theorem location_toJson :
    (Tree.node es l).toJson.property? locationProperty = l.map Location.toJson := by
  have hkind : locationProperty ≠ kindProperty := by decide
  have hslots := location_not_mem_properties k
  have hmember : (Tree.node es l).toJson.member? locationProperty = l.map Location.toJson := by
    rw [member?_toJson es l hkind, List.lookup_append, es.lookup_members_eq_none hslots,
      Option.none_or]
    cases l <;> rfl
  unfold Json.property?
  rw [hmember]
  cases l <;> rfl

/-- Each slot's property holds what is written for the slot's entry. -/
theorem property?_toJson :
    es.Each fun s e => (Tree.node es l).toJson.property? s.property = e.json? := by
  have hnodup := (List.nodup_cons.mp (List.nodup_cons.mp (grammar_properties_nodup k)).2).2
  refine (es.lookup_members hnodup).imp fun s hs e he => ?_
  obtain ⟨hkind, hlocation⟩ := grammar_property_ne hs
  have hmember : (Tree.node es l).toJson.member? s.property = e.json? := by
    rw [member?_toJson es l hkind, List.lookup_append, he]
    have hnone : (Location.members l).lookup s.property = none := by
      have hp : (s.property == "loc") = false := beq_eq_false_iff_ne.mpr hlocation
      cases l <;> simp [Location.members, List.lookup_cons, hp]
    rw [hnone, Option.or_none]
  unfold Json.property?
  rw [hmember]
  have hnull := e.json?_ne_null
  split
  · next h => exact absurd h hnull
  · rfl

end Tree

/-! ### Building what was rewritten -/

/-- A rewriting of JSON that changes nothing but what stands at locations. -/
structure Json.KeepsNodes (g : Json → Json) : Prop where
  tagged {v : Json} {k : Kind} (h : v.Tagged k) : (g v).Tagged k
  property? {v : Json} {p : String} (h : p ≠ locationProperty) :
    (g v).property? p = (v.property? p).map g
  scalar {s : Scalar} (x : s.Value) : g (Scalar.toJson x) = Scalar.toJson x
  array (items : List Json) : g (.array items) = .array (items.map g)

theorem Scalar.reads_toJson {s : Scalar} (x : s.Value) : s.Reads (some (Scalar.toJson x)) x := by
  cases s with
  | text => exact .text x
  | numeral => exact .literal x
  | boolean => exact .boolean x
  | flag => exact .flag x
  | operation => exact .operation x

namespace Context

variable {cx : Context} {g : Json → Json} {f : Location → Option Location}

/-- What is written for an entry stands for the entry, if the children in it build. -/
theorem fills_rewritten (hg : Json.KeepsNodes g) {shape : Shape} (e : Entry shape)
    (hchild : ∀ c, Json.Stands c e.json? → ∀ n : Node, n.toJson = c →
      cx.build (g c) = .ok (n.relocate f)) :
    cx.Fills (e.json?.map g) (e.relocate f) := by
  cases e with
  | scalar value =>
    show cx.Fills (some (g (Scalar.toJson value))) (.scalar value)
    rw [hg.scalar]
    exact .scalar (Scalar.reads_toJson value)
  | required admits child => exact .required admits (hchild _ .alone ⟨_, child⟩ rfl)
  | absent => exact .absent
  | present admits child => exact .present admits (hchild _ .alone ⟨_, child⟩ rfl)
  | sequence children =>
    show cx.Fills (some (g (.array children.toJsons))) (.sequence (children.relocate f))
    rw [hg.array]
    refine .items ?_
    rw [children.toJsons_eq_map, List.map_map, children.toList_relocate,
      List.forall₂_map_left_iff, List.forall₂_map_right_iff, List.forall₂_same]
    intro n hn
    have hmem : n.1.toJson ∈ children.toJsons := by
      rw [children.toJsons_eq_map]
      exact List.mem_map_of_mem hn
    exact hchild n.1.toJson (.item hmem) n.1 rfl

/-- A written node builds to the node, whatever the rewriting, with its locations
read from what the rewriting made of them. -/
theorem build_rewritten (served : ∀ k, cx.Serves k) (hg : Json.KeepsNodes g)
    (hf : ∀ v (l : Option Location), v.property? locationProperty = l.map Location.toJson →
      cx.Locates (g v) (l.bind f)) (v : Json) :
    ∀ n : Node, n.toJson = v → cx.build (g v) = .ok (n.relocate f) := by
  induction v using Json.childInduction with
  | step v ih =>
    intro n h
    obtain ⟨k, ⟨es, l⟩⟩ := n
    change (Tree.node es l).toJson = v at h
    subst h
    have htag := hg.tagged (Tree.tagged_toJson es l)
    have hlocation := hf _ l (Tree.location_toJson es l)
    refine cx.build_eq_ok.mpr ⟨served k, htag, ?_, hlocation⟩
    refine Entries.each_relocate ((Tree.property?_toJson es l).imp fun s hs e he => ?_)
    rw [hg.property? (grammar_property_ne hs).2, he]
    exact fills_rewritten hg e fun c hc => ih c ⟨s.property, he ▸ hc⟩

end Context

/-! ### Bounds and tokens -/

namespace Json

/-- The token that a bound is read from. -/
def tokenName (key : String) : String :=
  if key = "start" then "startToken" else if key = "end" then "endToken" else key

/-- A location's bounds as tokens. -/
def tokens : Json → Json
  | .object members => .object (members.map fun (key, v) => (tokenName key, v))
  | v => v

mutual
/-- The value with the bounds of every location in it as tokens. -/
def retoken : Json → Json
  | .object members => .object (retokenMembers members)
  | .array items => .array (retokenItems items)
  | v => v
termination_by structural v => v

def retokenItems : List Json → List Json
  | [] => []
  | v :: rest => v.retoken :: retokenItems rest
termination_by structural items => items

def retokenMembers : List (String × Json) → List (String × Json)
  | [] => []
  | (property, v) :: rest =>
    (property, if property = locationProperty then v.tokens else v.retoken) :: retokenMembers rest
termination_by structural members => members
end

theorem retokenItems_eq_map (items : List Json) : retokenItems items = items.map retoken := by
  induction items with
  | nil => rfl
  | cons v rest ih => rw [retokenItems, ih, List.map_cons]

theorem lookup_retokenMembers (members : List (String × Json)) (p : String) :
    (retokenMembers members).lookup p =
      (members.lookup p).map (if p = locationProperty then tokens else retoken) := by
  induction members with
  | nil => rfl
  | cons m rest ih =>
    obtain ⟨property, v⟩ := m
    rw [retokenMembers, List.lookup_cons, List.lookup_cons, ih]
    by_cases h : p = property
    · subst h
      simp only [beq_self_eq_true, Option.map_some]
      split <;> rfl
    · rw [beq_eq_false_iff_ne.mpr h]

theorem tokens_eq_null {v : Json} : v.tokens = .null ↔ v = .null := by
  cases v <;> simp [tokens]

theorem retoken_eq_null {v : Json} : v.retoken = .null ↔ v = .null := by
  cases v <;> simp [retoken]

theorem member?_retoken (v : Json) (p : String) :
    v.retoken.member? p =
      (v.member? p).map (if p = locationProperty then tokens else retoken) := by
  cases v with
  | object members => exact lookup_retokenMembers members p
  | _ => rfl

theorem property?_retoken (v : Json) {p : String} (h : p ≠ locationProperty) :
    v.retoken.property? p = (v.property? p).map retoken :=
  property?_map (fun _ => retoken_eq_null) (by rw [member?_retoken, if_neg h])

theorem location_retoken (v : Json) :
    v.retoken.property? locationProperty = (v.property? locationProperty).map tokens :=
  property?_map (fun _ => tokens_eq_null) (by rw [member?_retoken, if_pos rfl])

theorem keepsNodes_id : KeepsNodes id where
  tagged h := h
  property? _ := by rw [Option.map_id]; rfl
  scalar _ := rfl
  array _ := by rw [List.map_id, id]

theorem keepsNodes_retoken : KeepsNodes retoken where
  tagged {v k} h := by
    have hne : kindProperty ≠ locationProperty := by decide
    rw [Tagged, member?_retoken, h, if_neg hne]
    rfl
  property? h := property?_retoken _ h
  scalar {s} _ := by cases s <;> rfl
  array items := congrArg Json.array (retokenItems_eq_map items)

end Json

namespace Context

variable {cx : Context} {v : Json} {l : Option Location}

/-- Bounds that are no tokens are not read. -/
theorem locates_none (h : v.property? locationProperty = l.map Location.toJson) :
    cx.Locates v (l.bind fun _ => none) := by
  rw [Option.bind_fun_none]
  refine ⟨?_, by simp⟩
  rw [Json.span?_eq, h]
  cases l <;> rfl

/-- Bounds that are made tokens are read as the same span of the document at hand. -/
theorem locates_over (h : v.property? locationProperty = l.map Location.toJson) :
    cx.Locates v.retoken (l.bind fun l => some (l.over cx.source)) := by
  rw [Locates, Json.span?_eq, Json.location_retoken, h]
  cases l with
  | none => exact ⟨rfl, by simp⟩
  | some l =>
    have hstart : l.start < offsetBound := Nat.lt_of_le_of_lt l.start_le_stop l.stop_lt
    have hoffset (n : Nat) (h : n < offsetBound) : (Json.nat n).offset? = some n := if_pos h
    refine ⟨?_, fun x hx => ?_⟩
    · show ((Json.nat l.start).offset?).bind _ = _
      rw [hoffset _ hstart, Option.bind_some]
      show ((Json.nat l.stop).offset?).bind _ = _
      rw [hoffset _ l.stop_lt, Option.bind_some]
      rfl
    · cases hx
      rfl

end Context

/-! ### The round trip -/

/-- With its bounds made tokens, a written node builds to itself moved to the document
it is built over. -/
theorem ofJson_retoken (source : Source) (n : Node) :
    Node.ofJson source n.toJson.retoken = .ok (n.relocate fun l => some (l.over source)) :=
  Context.build_rewritten (Context.standard_serves source) Json.keepsNodes_retoken
    (fun _ _ => Context.locates_over) _ n rfl

/-- **A written node builds to itself without its locations, and with its bounds
made tokens, over the document that all of its locations are in, to itself.** -/
theorem ofJson_toJson (source : Source) (n : Node) :
    Node.ofJson source n.toJson = .ok n.bare ∧ n.bare.locations = [] ∧
      ((∀ l ∈ n.locations, l.source = source) →
        Node.ofJson source n.toJson.retoken = .ok n) := by
  refine ⟨?_, n.locations_bare, ?_⟩
  · exact Context.build_rewritten (Context.standard_serves source) Json.keepsNodes_id
      (fun _ _ => Context.locates_none) _ n rfl
  · intro h
    have hself : n.relocate (fun l => some (l.over source)) = n := by
      refine congrArg (Node.mk n.kind) (n.tree.relocate_eq_self fun l hl => ?_)
      rw [← h l hl]
      rfl
    rw [ofJson_retoken, hself]

/-- The field in `{ a }`, with its location and its name's. -/
def Node.locatedField : Node :=
  have span : Location := ⟨2, 3, .ofBody "{ a }", by decide, by decide⟩
  have name : Tree .name := .node (.cons (.scalar (s := .text) "a") .nil) (some span)
  ⟨.field, .node (.cons .absent (.cons (.required rfl name) (.cons (.sequence .nil)
    (.cons (.sequence .nil) (.cons .absent .nil))))) (some span)⟩

theorem ofJson_toJson_locatedField :
    Node.locatedField.locations.length = 2 ∧
      Node.ofJson (.ofBody "{ a }") Node.locatedField.toJson = .ok Node.locatedField.bare ∧
      Node.ofJson (.ofBody "{ a }") Node.locatedField.toJson.retoken = .ok Node.locatedField :=
  ⟨rfl, (ofJson_toJson _ _).1, (ofJson_toJson _ _).2.2 (by decide)⟩

end GraphQL
