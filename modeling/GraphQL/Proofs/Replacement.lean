import GraphQL.Proofs.Edits

/-! Putting one fragment in another's place.

A path leads from a fragment into its child slots: to a single child, or to an item of a
sequence, and on from there (`Json.Leads`). What stands at its end is built before
anything around it, and only the outcome is looked at. So whatever builds to the same,
or is refused with the same error, may stand there instead (`build_replaceAt`). -/
namespace GraphQL

namespace Json

/-! ### Paths -/

/-- A step into a child slot: to what stands at a property, or to one item of the array
there. -/
inductive Turn
  | child (property : String)
  | item (property : String) (index : Nat)
deriving DecidableEq, Repr

/-- A path through child slots, from a value to one inside it. -/
inductive Leads : Json → List Turn → Json → Prop
  | here {v : Json} : Leads v [] v
  | child {v a c : Json} {k : Kind} {s : Slot} {path : List Turn} (tagged : v.Tagged k)
      (slot : s ∈ grammar k) (shape : ∃ cl, s.shape = .required cl ∨ s.shape = .optional cl)
      (member : v.member? s.property = some a) (onwards : Leads a path c) :
      Leads v (.child s.property :: path) c
  | item {v a c : Json} {k : Kind} {s : Slot} {items : List Json} {i : Nat} {path : List Turn}
      (tagged : v.Tagged k) (slot : s ∈ grammar k) (shape : ∃ cl, s.shape = .sequence cl)
      (member : v.member? s.property = some (.array items)) (item : items[i]? = some a)
      (onwards : Leads a path c) : Leads v (.item s.property i :: path) c

/-- The value with something else made of what stands at a property. -/
def modifyMember (property : String) (f : Json → Json) : Json → Json
  | .object members =>
    .object (members.map fun m => (m.1, if m.1 = property then f m.2 else m.2))
  | v => v

/-- The array with something else made of one item. -/
def modifyItem (i : Nat) (f : Json → Json) : Json → Json
  | .array items => .array (items.modify i f)
  | v => v

/-- The value with another in place of what stands at the end of a path. -/
def replaceAt (replacement : Json) : List Turn → Json → Json
  | [], _ => replacement
  | .child property :: path, v => v.modifyMember property (replaceAt replacement path)
  | .item property i :: path, v =>
    v.modifyMember property (modifyItem i (replaceAt replacement path))

theorem lookup_modify (property : String) (f : Json → Json) (members : List (String × Json))
    (key : String) :
    (members.map fun m => (m.1, if m.1 = property then f m.2 else m.2)).lookup key =
      (members.lookup key).map fun v => if key = property then f v else v := by
  induction members with
  | nil => rfl
  | cons m rest ih =>
    obtain ⟨name, v⟩ := m
    rw [List.map_cons, List.lookup_cons, List.lookup_cons, ih]
    by_cases h : key = name
    · simp [h]
    · simp [beq_eq_false_iff_ne.mpr h]

theorem member?_modifyMember (v : Json) (property : String) (f : Json → Json) :
    (v.modifyMember property f).member? property = (v.member? property).map f := by
  cases v with
  | object members =>
    show List.lookup property (members.map _) = (members.lookup property).map f
    rw [lookup_modify]
    simp
  | _ => rfl

/-- Everything but the property stays as it was. -/
theorem sameBut_modifyMember {v c : Json} {key : String} (h : v.member? key = some c)
    (property : String) (f : Json → Json) : SameBut property v (v.modifyMember property f) := by
  cases v with
  | object members =>
    refine .object fun key hkey => ?_
    rw [lookup_modify]
    simp [hkey]
  | _ => cases h

theorem Tagged.ne_null {v : Json} {k : Kind} (h : v.Tagged k) : v ≠ .null := by
  rintro rfl
  cases h

theorem replaceAt_ne_null {v replacement : Json} (hv : v ≠ .null) (h : replacement ≠ .null)
    (path : List Turn) : replaceAt replacement path v ≠ .null := by
  have hmodify (property : String) (f : Json → Json) : v.modifyMember property f ≠ .null := by
    cases v <;> simp_all [modifyMember]
  cases path with
  | nil => exact h
  | cons turn path => cases turn <;> exact hmodify _ _

section
variable {v a : Json} {items : List Json} {property : String} (replacement : Json)
  (path : List Turn)

theorem member?_replaceAt_child (h : v.member? property = some a) :
    (replaceAt replacement (.child property :: path) v).member? property =
      some (replaceAt replacement path a) := by
  rw [replaceAt, member?_modifyMember, h]
  rfl

theorem member?_replaceAt_item (h : v.member? property = some (.array items)) (i : Nat) :
    (replaceAt replacement (.item property i :: path) v).member? property =
      some (.array (items.modify i (replaceAt replacement path))) := by
  rw [replaceAt, member?_modifyMember, h]
  rfl

end

theorem Tagged.modifyMember {v : Json} {k : Kind} {s : Slot} (h : v.Tagged k) (hs : s ∈ grammar k)
    (f : Json → Json) : (v.modifyMember s.property f).Tagged k :=
  ((sameBut_modifyMember h s.property f).member? (grammar_property_ne hs).1.symm).trans h

/-- Only at its end may a path come to null. -/
theorem Leads.ne_null {v c : Json} {path : List Turn} (h : v.Leads path c) (hc : c ≠ .null) :
    v ≠ .null := by
  cases h with
  | here => exact hc
  | child tagged => exact tagged.ne_null
  | item tagged => exact tagged.ne_null

/-- The path that led to what was replaced leads to the replacement. -/
theorem Leads.replaceAt {v c : Json} {path : List Turn} (h : v.Leads path c) (replacement : Json) :
    (replaceAt replacement path v).Leads path replacement := by
  induction h with
  | here => exact .here
  | child tagged slot shape member _ ih =>
    exact .child (tagged.modifyMember slot _) slot shape (member?_replaceAt_child _ _ member) ih
  | @item v a c k s items i path tagged slot shape member item _ ih =>
    have hitem : (items.modify i (Json.replaceAt replacement path))[i]? =
        some (Json.replaceAt replacement path a) := by
      rw [List.getElem?_modify_eq, item]
      rfl
    exact .item (tagged.modifyMember slot _) slot shape (member?_replaceAt_item _ _ member i) hitem ih

end Json

/-! ### Building with a replacement -/

theorem forall₂_modify {α : Type} {R : α → α → Prop} (hrefl : ∀ x, R x x) {f : α → α} {a : α}
    (ha : R a (f a)) {items : List α} {i : Nat} (h : items[i]? = some a) :
    List.Forall₂ R items (items.modify i f) := by
  induction items generalizing i with
  | nil => cases h
  | cons x rest ih =>
    cases i with
    | zero =>
      obtain rfl : x = a := Option.some.inj h
      exact .cons ha (List.forall₂_same.mpr fun y _ => hrefl y)
    | succ i => exact .cons (hrefl x) (ih h)

/-- **What a value builds to depends on a fragment in its child slots only through what that
fragment builds to.** Another that builds to the same node, or is refused with the same
error, may be put in its place at any depth. -/
theorem build_replaceAt (cx : Context) {v c replacement : Json} {path : List Json.Turn}
    (h : v.Leads path c) (hc : c ≠ .null) (hreplacement : replacement ≠ .null)
    (hbuild : cx.build replacement = cx.build c) :
    (Json.replaceAt replacement path v).Leads path replacement ∧
      cx.build (Json.replaceAt replacement path v) = cx.build v := by
  refine ⟨h.replaceAt replacement, ?_⟩
  -- A null at a property is no child at all, so null is neither replaced nor put anywhere.
  induction h with
  | here => exact hbuild
  | @child v a c k s path tagged slot shape member onwards ih =>
    have hold := Json.property?_of_ne_null member (onwards.ne_null hc)
    have hnew := Json.property?_of_ne_null (Json.member?_replaceAt_child replacement path member)
      (Json.replaceAt_ne_null (onwards.ne_null hc) hreplacement path)
    have hbuilt := (ih hc hbuild).trans (Context.relocate_some_build a).symm
    refine Context.build_sameBut tagged slot (Json.sameBut_modifyMember tagged ..) ?_
    rw [hold, hnew]
    obtain ⟨cl, hshape | hshape⟩ := shape
    · rw [hshape]
      exact .required hbuilt
    · rw [hshape]
      exact .optional hbuilt
  | @item v a c k s items i path tagged slot shape member item onwards ih =>
    have hold := Json.property?_of_ne_null member fun h => by cases h
    have hnew := Json.property?_of_ne_null (Json.member?_replaceAt_item replacement path member i)
      fun h => by cases h
    have hbuilt := (ih hc hbuild).trans (Context.relocate_some_build a).symm
    refine Context.build_sameBut tagged slot (Json.sameBut_modifyMember tagged ..) ?_
    obtain ⟨cl, hshape⟩ := shape
    rw [hold, hnew, hshape]
    exact .items (forall₂_modify (fun x => (Context.relocate_some_build x).symm) hbuilt item)

/-- A list with a reference to a non-null type in it. -/
def Json.listOfType (name : Json) : Json :=
  .listOf (.object [("kind", .string "NonNullType"), ("type", name)]) .null

/-- A name without a text, and the same with a null for it and in another order. -/
theorem build_replaceAt_namelessType :
    let name : Json := .object [("kind", .string "Name")]
    let replacement : Json := .object [("value", .null), ("kind", .string "Name")]
    let path : List Json.Turn := [.item "values" 0, .child "type"]
    let cx : Context := ⟨.standard, .ofBody "[ ]"⟩
    (Json.listOfType name).Leads path name ∧ name ≠ .null ∧ replacement ≠ .null ∧
      cx.build replacement = cx.build name ∧
      (Json.replaceAt replacement path (.listOfType name)).Leads path replacement ∧
      cx.build (Json.replaceAt replacement path (.listOfType name)) =
        cx.build (.listOfType name) := by
  intro name replacement path cx
  have hlist : (Json.listOfType name).Tagged .listValue := rfl
  have htype : Json.Tagged (.object [("kind", .string "NonNullType"), ("type", name)])
    .nonNullType := rfl
  have hvalues : Slot.mk "values" (.sequence .any) ∈ grammar .listValue := by decide
  have hany : Slot.anyType ∈ grammar .nonNullType := by decide
  have hleads : (Json.listOfType name).Leads path name :=
    .item hlist hvalues ⟨.any, rfl⟩ rfl rfl (.child htype hany ⟨.any, .inl rfl⟩ rfl .here)
  have hbuild : cx.build replacement = cx.build name := rfl
  have hname : name ≠ .null := by decide
  have hreplacement : replacement ≠ .null := by decide
  exact ⟨hleads, hname, hreplacement, hbuild, build_replaceAt cx hleads hname hreplacement hbuild⟩

end GraphQL
