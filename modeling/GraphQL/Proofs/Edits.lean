import GraphQL.Proofs.Congruence
import Mathlib.Data.List.Nodup
import Mathlib.Logic.Relation

/-! Edits of a value that nobody notices.

Of a fragment only its kind, its location's tokens and the properties in the table of
its kind are read. `Json.Edit` lists the edits of one object that leave these alone, and
`Json.EditIn` makes them anywhere in a value where a fragment can be. One edit changes
nothing about what is built (`Context.build_editIn`), so no run of them does. -/
namespace GraphQL

theorem grammar_property_inj {k : Kind} {s t : Slot} (hs : s ∈ grammar k) (ht : t ∈ grammar k)
    (h : s.property = t.property) : s = t := by
  have hnodup := (List.nodup_cons.mp (List.nodup_cons.mp (grammar_properties_nodup k)).2).2
  exact List.inj_on_of_nodup_map hnodup hs ht h

namespace Json

variable {v w : Json} {property key : String}

/-! ### Objects that differ in one property -/

/-- Two objects with the same value at every property but one. -/
inductive SameBut (property : String) : Json → Json → Prop
  | object {members members' : List (String × Json)}
      (elsewhere : ∀ key, key ≠ property → members'.lookup key = members.lookup key) :
      SameBut property (.object members) (.object members')

theorem SameBut.member? (h : SameBut property v w) (hkey : key ≠ property) :
    w.member? key = v.member? key := by
  cases h with
  | object elsewhere => exact elsewhere key hkey

theorem SameBut.cons (property : String) (value : Json) (members : List (String × Json)) :
    SameBut property (.object members) (.object ((property, value) :: members)) :=
  .object fun key hkey => by simp [List.lookup_cons, beq_eq_false_iff_ne.mpr hkey]

theorem SameBut.replace (property : String) (before after : List (String × Json)) (x y : Json) :
    SameBut property (.object (before ++ (property, x) :: after))
      (.object (before ++ (property, y) :: after)) :=
  .object fun key hkey => by
    simp [List.lookup_append, List.lookup_cons, beq_eq_false_iff_ne.mpr hkey]

theorem SameBut.property? (h : SameBut property v w) (hkey : key ≠ property) :
    w.property? key = v.property? key := property?_congr (h.member? hkey)

theorem span?_congr (h : w.property? locationProperty = v.property? locationProperty) :
    w.span? = v.span? := by
  rw [span?_eq, span?_eq, h]

/-- The tokens are read off whatever stands at the location; null has none. -/
theorem span?_eq_of_tokens {l l' : Json} (old : v.member? locationProperty = some l)
    (new : w.member? locationProperty = some l')
    (start : l'.member? "startToken" = l.member? "startToken")
    (stop : l'.member? "endToken" = l.member? "endToken") : w.span? = v.span? := by
  have hspan {v l : Json} (h : v.member? locationProperty = some l) : v.span? = do
      let start ← l.member? "startToken" >>= offset?
      let stop ← l.member? "endToken" >>= offset?
      return (start, stop) := by
    rw [span?_eq]
    unfold property?
    rw [h]
    cases l <;> rfl
  rw [hspan old, hspan new, start, stop]

/-- The order of members with different keys does not matter. -/
theorem lookup_perm {members members' : List (String × Json)} (h : members.Perm members')
    (distinct : (members.map Prod.fst).Nodup) (key : String) :
    members'.lookup key = members.lookup key := by
  induction h with
  | nil => rfl
  | cons m _ ih => rw [List.lookup_cons, List.lookup_cons, ih (List.nodup_cons.mp distinct).2]
  | swap m n rest =>
    obtain ⟨m, v⟩ := m
    obtain ⟨n, w⟩ := n
    have hne : n ≠ m := by
      intro h
      simp [h] at distinct
    by_cases hm : key = m
    · have hn : (m == n) = false := beq_eq_false_iff_ne.mpr hne.symm
      simp [List.lookup_cons, hm, hn]
    · simp [List.lookup_cons, beq_eq_false_iff_ne.mpr hm]
  | trans hfirst _ ih ih' =>
    have distinct' := (hfirst.map Prod.fst).nodup_iff.mp distinct
    rw [ih' distinct', ih distinct]

/-! ### Edits -/

/-- An edit of one object that its reader does not notice. -/
inductive Edit : Json → Json → Prop
  /-- A property that the table of the fragment's kind does not have is added, removed or
  changed. -/
  | unlisted {v w : Json} {property : String} (same : SameBut property v w)
      (kind : property ≠ kindProperty) (location : property ≠ locationProperty)
      (unlisted : ∀ k, v.Tagged k → ∀ s ∈ grammar k, s.property ≠ property) : Edit v w
  /-- A property that is null is added or removed. -/
  | null {v w : Json} {property : String} (same : SameBut property v w)
      (kind : property ≠ kindProperty) (old : v.property? property = none)
      (new : w.property? property = none) : Edit v w
  /-- The location is replaced by another with the same tokens. -/
  | sameTokens {v w l l' : Json} (same : SameBut locationProperty v w)
      (old : v.member? locationProperty = some l) (new : w.member? locationProperty = some l')
      (start : l'.member? "startToken" = l.member? "startToken")
      (stop : l'.member? "endToken" = l.member? "endToken") : Edit v w
  /-- A location that does not carry both tokens is replaced by another that does not. -/
  | noTokens {v w : Json} (same : SameBut locationProperty v w) (old : v.span? = none)
      (new : w.span? = none) : Edit v w
  /-- The members are put in another order. -/
  | reordered {members members' : List (String × Json)} (perm : members.Perm members')
      (distinct : (members.map Prod.fst).Nodup) : Edit (.object members) (.object members')

/-- One value is put in another's place, which is that of an item or all there is. -/
inductive Swaps (a b : Json) : Option Json → Option Json → Prop
  | alone : Swaps a b (some a) (some b)
  | item (before after : List Json) :
      Swaps a b (some (.array (before ++ a :: after))) (some (.array (before ++ b :: after)))

/-- An edit of a fragment itself, or of a fragment in a child slot of it, at any depth. -/
inductive EditIn : Json → Json → Prop
  | here {v w : Json} (edit : Edit v w) : EditIn v w
  | child {v w a b : Json} {k : Kind} {s : Slot} (tagged : v.Tagged k) (slot : s ∈ grammar k)
      (children : ∀ t, s.shape ≠ .scalar t) (same : SameBut s.property v w)
      (swaps : Swaps a b (v.property? s.property) (w.property? s.property))
      (edit : EditIn a b) : EditIn v w

/-! ### What an edit leaves alone -/

namespace Edit

theorem member?_kind (h : Edit v w) : w.member? kindProperty = v.member? kindProperty := by
  cases h with
  | unlisted same kind => exact same.member? kind.symm
  | null same kind => exact same.member? kind.symm
  | sameTokens same => exact same.member? (by decide)
  | noTokens same => exact same.member? (by decide)
  | reordered perm distinct => exact lookup_perm perm distinct kindProperty

theorem property?_slot (h : Edit v w) {k : Kind} (hk : v.Tagged k) {s : Slot} (hs : s ∈ grammar k) :
    w.property? s.property = v.property? s.property := by
  cases h with
  | unlisted same _ _ unlisted => exact same.property? (unlisted k hk s hs)
  | @null _ _ property same _ old new =>
    by_cases hp : s.property = property
    · rw [hp, old, new]
    · exact same.property? hp
  | sameTokens same => exact same.property? (grammar_property_ne hs).2
  | noTokens same => exact same.property? (grammar_property_ne hs).2
  | reordered perm distinct => exact property?_congr (lookup_perm perm distinct s.property)

theorem span? (h : Edit v w) : w.span? = v.span? := by
  cases h with
  | unlisted same _ location => exact span?_congr (same.property? location.symm)
  | @null _ _ property same _ old new =>
    apply span?_congr
    by_cases hp : locationProperty = property
    · rw [hp, old, new]
    · exact same.property? hp
  | sameTokens _ old new start stop => exact span?_eq_of_tokens old new start stop
  | noTokens _ old new => rw [old, new]
  | reordered perm distinct =>
    exact span?_congr (property?_congr (lookup_perm perm distinct locationProperty))

end Edit

theorem SameBut.not_array (h : SameBut property v w) :
    (∀ items, v ≠ .array items) ∧ ∀ items, w ≠ .array items := by
  cases h
  simp

/-- Only objects are edited. -/
theorem EditIn.not_array (h : EditIn v w) :
    (∀ items, v ≠ .array items) ∧ ∀ items, w ≠ .array items := by
  cases h with
  | here edit =>
    cases edit with
    | unlisted same => exact same.not_array
    | null same => exact same.not_array
    | sameTokens same => exact same.not_array
    | noTokens same => exact same.not_array
    | reordered => simp
  | child _ _ _ same => exact same.not_array

end Json

/-! ### Building what was edited -/

namespace Context

variable {cx : Context} {v w : Json}

/-- In one context and with all locations kept, to build alike is to build the same. -/
theorem relocate_some_build (v : Json) : Node.relocate some <$> cx.build v = cx.build v := by
  rw [funext Node.relocate_some]
  exact id_map' _

theorem alike_refl {shape : Shape} (value : Option Json) : cx.Alike cx some shape value value :=
  alike_self value fun c _ => (relocate_some_build c).symm

/-- Children that build to the same may stand for each other. -/
theorem alike_swaps {shape : Shape} {a b : Json} {value value' : Option Json}
    (hshape : ∀ t, shape ≠ .scalar t) (h : Json.Swaps a b value value')
    (hother : (∀ items, a ≠ .array items) ∧ ∀ items, b ≠ .array items)
    (hbuild : cx.build b = cx.build a) : cx.Alike cx some shape value value' := by
  have hbuilt : cx.build b = Node.relocate some <$> cx.build a :=
    hbuild.trans (relocate_some_build a).symm
  cases h with
  | alone =>
    cases shape with
    | scalar s => exact absurd rfl (hshape s)
    | required c => exact .required hbuilt
    | optional c => exact .optional hbuilt
    | sequence c => exact .notArray hother.1 hother.2
  | item before after =>
    cases shape with
    | scalar s => exact absurd rfl (hshape s)
    -- An array is no fragment, whatever its items are.
    | required c => exact .required rfl
    | optional c => exact .optional rfl
    | sequence c =>
      have hrest (vs : List Json) :
          List.Forall₂ (fun v w => cx.build w = Node.relocate some <$> cx.build v) vs vs :=
        List.forall₂_same.mpr fun v _ => (relocate_some_build v).symm
      exact .items (List.rel_append (hrest before) (.cons hbuilt (hrest after)))

/-- Two fragments build to the same when they name the same kind, their slots are read
alike and their tokens are the same. -/
theorem build_congr (hkind : w.member? kindProperty = v.member? kindProperty)
    (hslots : ∀ k, v.Tagged k → ∀ s ∈ grammar k,
      cx.Alike cx some s.shape (v.property? s.property) (w.property? s.property))
    (hspan : w.span? = v.span?) : cx.build w = cx.build v := by
  have hf (l : Location) (hl : l.source = cx.source) : some l = some (l.over cx.source) := hl ▸ rfl
  have h := build_alike hf (fun _ _ => Iff.rfl) hkind hslots hspan
  exact h.trans (relocate_some_build v)

/-- A change at one slot that its reader does not notice. -/
theorem build_sameBut {k : Kind} {s : Slot} (hk : v.Tagged k) (hs : s ∈ grammar k)
    (same : Json.SameBut s.property v w)
    (halike : cx.Alike cx some s.shape (v.property? s.property) (w.property? s.property)) :
    cx.build w = cx.build v := by
  obtain ⟨hkind, hlocation⟩ := grammar_property_ne hs
  have hspan := Json.span?_congr (same.property? hlocation.symm)
  refine build_congr (same.member? hkind.symm) (fun j hj t ht => ?_) hspan
  have hjk : j = k := hj.unique hk
  subst hjk
  by_cases hts : t.property = s.property
  · rw [grammar_property_inj ht hs hts]
    exact halike
  · rw [same.property? hts]
    exact alike_refl _

/-- An edit, at whatever depth it is made, leaves what is built as it was. -/
theorem build_editIn (h : Json.EditIn v w) : cx.build w = cx.build v := by
  induction h with
  | here edit =>
    refine build_congr edit.member?_kind (fun k hk s hs => ?_) edit.span?
    rw [edit.property?_slot hk hs]
    exact alike_refl _
  | child tagged slot children same swaps edit ih =>
    exact build_sameBut tagged slot same (alike_swaps children swaps edit.not_array ih)

end Context

/-- **Nothing but the properties in the grammar's table matters.** However often a value is
edited where no reader looks, it builds to the same node or is refused with the same
error. -/
theorem build_eq_of_edits (cx : Context) {v w : Json} (h : Relation.ReflTransGen Json.EditIn v w) :
    cx.build w = cx.build v := by
  induction h with
  | refl => rfl
  | tail _ edit ih => exact (Context.build_editIn edit).trans ih

/-- A list with one item. -/
def Json.listOf (item location : Json) : Json :=
  .object [("kind", .string "ListValue"), ("values", .array [item]), ("loc", location)]

/-- A list with a null in it. -/
def Json.plainList : Json :=
  .listOf (.object [("kind", .string "NullValue")])
    (.object [("startToken", .nat 1), ("endToken", .nat 5)])

/-- The same list in another order, with a location that says more, and with a null that
comes with a value and with a location that is null. -/
def Json.editedList : Json :=
  .object [("values", .array [.object
      [("loc", .null), ("value", .nat 3), ("kind", .string "NullValue")]]),
    ("loc", .object [("endToken", .nat 5), ("line", .nat 1), ("startToken", .nat 1)]),
    ("kind", .string "ListValue")]

theorem build_editedList :
    Relation.ReflTransGen Json.EditIn Json.plainList Json.editedList ∧
      Node.ofJson (.ofBody "[null]") Json.editedList =
        Node.ofJson (.ofBody "[null]") Json.plainList := by
  have hitem {a b : Json} (l : Json) (h : Json.EditIn a b) :
      Json.EditIn (.listOf a l) (.listOf b l) := by
    have htag : (Json.listOf a l).Tagged .listValue := rfl
    have hslot : Slot.mk "values" (.sequence .any) ∈ grammar .listValue := by decide
    have hsame := Json.SameBut.replace "values" [("kind", .string "ListValue")] [("loc", l)]
      (.array [a]) (.array [b])
    exact .child htag hslot (fun t h => by cases h) hsame (.item [] []) h
  have hvalue : Json.EditIn (.object [("kind", .string "NullValue")])
      (.object [("value", .nat 3), ("kind", .string "NullValue")]) := by
    refine .here (.unlisted (.cons ..) (by decide) (by decide) fun k hk => ?_)
    have hnull : k = .nullValue := hk.unique rfl
    subst hnull
    decide
  have hloc : Json.EditIn (.object [("value", .nat 3), ("kind", .string "NullValue")])
      (.object [("loc", .null), ("value", .nat 3), ("kind", .string "NullValue")]) :=
    .here (.null (.cons ..) (by decide) rfl rfl)
  have htokens (item : Json) :
      Json.EditIn (.listOf item (.object [("startToken", .nat 1), ("endToken", .nat 5)]))
        (.listOf item (.object [("endToken", .nat 5), ("line", .nat 1), ("startToken", .nat 1)])) :=
    .here (.sameTokens (.replace "loc" [("kind", _), ("values", _)] [] _ _) rfl rfl rfl rfl)
  have horder (item location : Json) : Json.EditIn (.listOf item location) (.object
      [("values", .array [item]), ("loc", location), ("kind", .string "ListValue")]) := by
    have hperm := @List.perm_append_comm _ [("kind", Json.string "ListValue")]
      [("values", .array [item]), ("loc", location)]
    exact .here (.reordered hperm (by simp))
  have hedits : Relation.ReflTransGen Json.EditIn Json.plainList Json.editedList :=
    .head (hitem _ hvalue) (.head (hitem _ hloc) (.head (htokens _) (.single (horder _ _))))
  exact ⟨hedits, build_eq_of_edits _ hedits⟩

end GraphQL
