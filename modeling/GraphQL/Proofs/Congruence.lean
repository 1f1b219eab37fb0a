import GraphQL.Proofs.Reading
import GraphQL.Proofs.Relocation

/-! Two builds that go alike.

Two fragments may be built in two contexts, and what is built may differ in what
becomes of the locations, `f`. `Context.Alike` says when the values of one property are
read alike; `Context.build_alike` is what follows when this holds of every slot: the
two build to the same node up to `f`, or fail with the same error. It takes the
children's builds as given, so a comparison of whole values is an induction whose step
is this theorem. -/
namespace GraphQL

variable {f : Location → Option Location}

/-! ### Reading one slot -/

namespace Context

/-- The values of a property in two fragments are read alike: what is no child is the
same, and children build alike, but for what becomes of their locations. -/
inductive Alike (cx cx' : Context) (f : Location → Option Location) :
    Shape → Option Json → Option Json → Prop
  | scalar {s : Scalar} {value : Option Json} : Alike cx cx' f (.scalar s) value value
  | absent {shape : Shape} : Alike cx cx' f shape none none
  | required {c : Class} {v w : Json} (built : cx'.build w = Node.relocate f <$> cx.build v) :
      Alike cx cx' f (.required c) (some v) (some w)
  | optional {c : Class} {v w : Json} (built : cx'.build w = Node.relocate f <$> cx.build v) :
      Alike cx cx' f (.optional c) (some v) (some w)
  | notArray {c : Class} {v w : Json} (hv : ∀ items, v ≠ .array items)
      (hw : ∀ items, w ≠ .array items) : Alike cx cx' f (.sequence c) (some v) (some w)
  | items {c : Class} {vs ws : List Json}
      (built : List.Forall₂ (fun v w => cx'.build w = Node.relocate f <$> cx.build v) vs ws) :
      Alike cx cx' f (.sequence c) (some (.array vs)) (some (.array ws))

/-- A value is read like itself when the children that stand there build alike. -/
theorem alike_self {cx cx' : Context} {shape : Shape} (value : Option Json)
    (hchild : ∀ c, Json.Stands c value → cx'.build c = Node.relocate f <$> cx.build c) :
    cx.Alike cx' f shape value value := by
  cases value with
  | none => exact .absent
  | some v =>
    cases shape with
    | scalar s => exact .scalar
    | required c => exact .required (hchild v .alone)
    | optional c => exact .optional (hchild v .alone)
    | sequence c =>
      by_cases harray : ∃ items, v = .array items
      · obtain ⟨items, rfl⟩ := harray
        exact .items (List.forall₂_same.mpr fun w hw => hchild w (.item hw))
      · exact .notArray (not_exists.mp harray) (not_exists.mp harray)

end Context

namespace Site

variable {site : Site} {c : Class} {cx cx' : Context}

/-- Whether a class takes a node does not depend on its locations. -/
theorem accept_relocate (n : Node) :
    site.accept c (n.relocate f) = Node.Of.relocate f <$> site.accept c n := by
  by_cases h : c.Admits n.kind
  · have h' : c.Admits (n.relocate f).kind := h
    rw [accept_admitted h, accept_admitted h']
    rfl
  · obtain ⟨k, rfl, hk⟩ := accept_refused site h
    obtain ⟨j, hj, hj'⟩ := accept_refused (c := .only k) (n := n.relocate f) site h
    cases hj
    rw [hk, hj']
    rfl

theorem child_relocate {v w : Json} (h : cx'.build w = Node.relocate f <$> cx.build v) :
    (cx'.build w >>= site.accept c) = Node.Of.relocate f <$> (cx.build v >>= site.accept c) := by
  rw [h, bind_map_left, map_bind]
  exact congrArg (cx.build v >>= ·) (funext fun n => accept_relocate n)

theorem children_relocate {vs ws : List Json}
    (h : List.Forall₂ (fun v w => cx'.build w = Node.relocate f <$> cx.build v) vs ws) :
    site.childrenOf c (some (cx'.part (.array ws))) =
      List.map (Node.Of.relocate f) <$> site.childrenOf c (some (cx.part (.array vs))) := by
  have haccept (nodes : List Node) : (nodes.map (Node.relocate f)).mapM (site.accept c) =
      List.map (Node.Of.relocate f) <$> nodes.mapM (site.accept c) := by
    apply Outcome.mapM_map_of_forall₂
    rw [List.forall₂_map_right_iff, List.forall₂_same]
    exact fun n _ => accept_relocate n
  rw [childrenOf_array, childrenOf_array, Outcome.mapM_map_of_forall₂ h, bind_map_left, map_bind]
  exact congrArg (vs.mapM cx.build >>= ·) (funext haccept)

theorem entry_alike {shape : Shape} {value value' : Option Json}
    (h : cx.Alike cx' f shape value value') :
    site.entry (value'.map cx'.part) shape =
      Entry.relocate f <$> site.entry (value.map cx.part) shape := by
  cases h with
  | @scalar s value =>
    show Entry.scalar <$> site.scalar ((value.map cx'.part).map (·.value)) s =
      Entry.relocate f <$> (Entry.scalar <$> site.scalar ((value.map cx.part).map (·.value)) s)
    rw [cx.map_part_value, cx'.map_part_value, Functor.map_map]
    rfl
  | absent =>
    cases shape with
    | scalar s =>
      show Entry.scalar <$> site.scalar none s = Entry.relocate f <$> (Entry.scalar <$> site.scalar none s)
      rw [Functor.map_map]
      rfl
    | _ => rfl
  | @required c v w built =>
    show Entry.ofChild <$> site.childOf c (some (cx'.part w)) =
      Entry.relocate f <$> (Entry.ofChild <$> site.childOf c (some (cx.part v)))
    rw [childOf_some, childOf_some, child_relocate built, Functor.map_map, Functor.map_map]
    rfl
  | @optional c v w built =>
    show Entry.ofChild? <$> site.childOf? c (some (cx'.part w)) =
      Entry.relocate f <$> (Entry.ofChild? <$> site.childOf? c (some (cx.part v)))
    rw [childOf?_some, childOf?_some, child_relocate built]
    simp only [Functor.map_map]
    rfl
  | @notArray c v w hv hw =>
    show _ <$> site.childrenOf c (some (cx'.part w)) =
      Entry.relocate f <$> (_ <$> site.childrenOf c (some (cx.part v)))
    rw [childrenOf_not_array cx hv, childrenOf_not_array cx' hw]
    rfl
  | @items c vs ws built =>
    show (fun nodes => Entry.sequence (.ofList nodes)) <$> site.childrenOf c (some (cx'.part (.array ws))) =
      Entry.relocate f <$>
        ((fun nodes => Entry.sequence (.ofList nodes)) <$> site.childrenOf c (some (cx.part (.array vs))))
    rw [children_relocate built]
    simp only [Functor.map_map, Trees.ofList_relocate]
    rfl

end Site

/-! ### Reading a production -/

theorem Entries.read_relocate {k : Kind} {part? part?' : String → Option Part} {slots : List Slot}
    (h : ∀ s ∈ slots, Site.entry ⟨k, s.property⟩ (part?' s.property) s.shape =
      Entry.relocate f <$> Site.entry ⟨k, s.property⟩ (part? s.property) s.shape) :
    Entries.read k part?' slots = Entries.relocate f <$> Entries.read k part? slots := by
  induction slots with
  | nil => rfl
  | cons s rest ih =>
    rw [Entries.read, Entries.read, h s (List.mem_cons_self ..),
      ih fun t ht => h t (List.mem_cons_of_mem s ht)]
    cases Site.entry ⟨k, s.property⟩ (part? s.property) s.shape with
    | error e => rfl
    | ok entry => cases Entries.read k part? rest <;> rfl

namespace Context

variable {cx cx' : Context} {v w : Json}

theorem location_alike (hf : ∀ l : Location, l.source = cx.source → f l = some (l.over cx'.source))
    (hspan : w.span? = v.span?) (site : Site) :
    site.location cx'.source (w.property? locationProperty) =
      (·.bind f) <$> site.location cx.source (v.property? locationProperty) := by
  rw [Site.location_property?, Site.location_property?, hspan]
  cases v.span? with
  | none => rfl
  | some bounds =>
    obtain ⟨start, stop⟩ := bounds
    by_cases h : start ≤ stop ∧ stop < offsetBound
    · have hl (source : Source) :
          Location.ofBounds? start stop source = some ⟨start, stop, source, h.1, h.2⟩ := dif_pos h
      simp only [hl]
      exact congrArg Except.ok (hf ⟨start, stop, cx.source, h.1, h.2⟩ rfl).symm
    · have hl (source : Source) : Location.ofBounds? start stop source = none := dif_neg h
      simp only [hl]
      rfl

/-- Two fragments build alike when they name the same kind, their slots are read alike and
their tokens are the same. -/
theorem build_alike (hf : ∀ l : Location, l.source = cx.source → f l = some (l.over cx'.source))
    (hserves : ∀ k, v.Tagged k → (cx.Serves k ↔ cx'.Serves k))
    (hkind : w.member? kindProperty = v.member? kindProperty)
    (hslots : ∀ k, v.Tagged k → ∀ s ∈ grammar k,
      cx.Alike cx' f s.shape (v.property? s.property) (w.property? s.property))
    (hspan : w.span? = v.span?) :
    cx'.build w = Node.relocate f <$> cx.build v := by
  rcases v.tagged_cases with ⟨k, hk⟩ | ⟨tag, htag, hno⟩ | hno
  · have hk' : w.Tagged k := hkind.trans hk
    by_cases hs : cx.Serves k
    · rw [cx.build_served hs hk, cx'.build_served ((hserves k hk).mp hs) hk', Tree.read, Tree.read]
      have hentries : Entries.read k (cx'.partOf w) (grammar k) =
          Entries.relocate f <$> Entries.read k (cx.partOf v) (grammar k) :=
        Entries.read_relocate fun s hs => Site.entry_alike (hslots k hk s hs)
      have hlocation := location_alike hf hspan ⟨k, locationProperty⟩
      rw [hentries, partOf, partOf, map_part_value, map_part_value, hlocation]
      cases Entries.read k (cx.partOf v) (grammar k) with
      | error e => rfl
      | ok entries =>
        cases Site.location ⟨k, locationProperty⟩ cx.source (v.property? locationProperty) <;> rfl
    · have hs' : ¬ cx'.Serves k := fun h => hs ((hserves k hk).mpr h)
      rw [cx.build_unserved hs hk, cx'.build_unserved hs' hk']
      rfl
  · rw [cx.build_unknown htag hno, cx'.build_unknown (hkind.trans htag) hno]
    rfl
  · rw [cx.build_malformed hno, cx'.build_malformed (hkind ▸ hno)]
    rfl

end Context

end GraphQL
