import GraphQL.Proofs.Reading
import Mathlib.Logic.Relation

/-! What a value is refused for: the first fault in reading order.

A fragment may be at fault itself (`Context.Fault`), or reading it may stop at a
child that is refused (`Context.Descends`); either way all slots in front of the one
at fault are filled. Following children down from a refused value always ends at a
fault, and what is reported is that fault and no other (`Context.build_eq_error_iff`). -/
namespace GraphQL

/-! ### Faults of a slot -/

/-- A slot that cannot be left empty. -/
def Shape.Needed : Shape → Prop
  | .scalar s => s ≠ .flag
  | .required _ => True
  | .optional _ | .sequence _ => False

namespace Context

variable (cx : Context)

/-- A child builds, but to another kind than its class takes. -/
inductive Unexpected (site : Site) : Class → Json → BuildError → Prop
  | child {k found : Kind} {v : Json} (built : cx.Builds found v) (differs : found ≠ k) :
      Unexpected site (.only k) v (.unexpectedKind site.kind site.property k found)

/-- What is wrong with the value of a slot, apart from children that do not build.
Kinds are looked at when all items of a sequence have been built. -/
inductive SlotFault (site : Site) : Shape → Option Json → BuildError → Prop
  | missing {shape : Shape} (needed : shape.Needed) : SlotFault site shape none site.missing
  | scalar {s : Scalar} {v : Json} (unread : ∀ x, ¬ s.Reads (some v) x) :
      SlotFault site (.scalar s) (some v) (site.invalid (s.expected v))
  | notArray {c : Class} {v : Json} (other : ∀ items, v ≠ .array items) :
      SlotFault site (.sequence c) (some v) (site.invalid "array of fragments")
  | required {c : Class} {v : Json} {e : BuildError} (unexpected : cx.Unexpected site c v e) :
      SlotFault site (.required c) (some v) e
  | optional {c : Class} {v : Json} {e : BuildError} (unexpected : cx.Unexpected site c v e) :
      SlotFault site (.optional c) (some v) e
  | item {c : Class} {earlier later : List Json} {v : Json} {e : BuildError}
      (built : ∀ x ∈ earlier ++ v :: later, ∃ n, cx.build x = .ok n)
      (taken : ∀ x ∈ earlier, (Shape.required c).Filled cx.Builds (some x))
      (unexpected : cx.Unexpected site c v e) :
      SlotFault site (.sequence c) (some (.array (earlier ++ v :: later))) e

/-- A child that is built when a slot is read, all items in front of it having been
built. -/
inductive Enters : Shape → Option Json → Json → Prop
  | required {c : Class} {v : Json} : Enters (.required c) (some v) v
  | optional {c : Class} {v : Json} : Enters (.optional c) (some v) v
  | item {c : Class} {earlier later : List Json} {v : Json}
      (built : ∀ x ∈ earlier, ∃ n, cx.build x = .ok n) :
      Enters (.sequence c) (some (.array (earlier ++ v :: later))) v

variable {cx}

theorem Enters.stands {shape : Shape} {value : Option Json} {c : Json}
    (h : cx.Enters shape value c) : Json.Stands c value := by
  cases h with
  | required => exact .alone
  | optional => exact .alone
  | item => exact .item (List.mem_append_right _ (List.mem_cons_self ..))

end Context

namespace Site

variable {site : Site} {c : Class} {cx : Context}

theorem accept_eq_error {n : Node} {e : BuildError} :
    site.accept c n = .error e ↔
      ∃ k, c = .only k ∧ n.kind ≠ k ∧ e = .unexpectedKind site.kind site.property k n.kind := by
  by_cases h : c.Admits n.kind
  · rw [accept_admitted h]
    constructor
    · intro he
      cases he
    · intro he
      obtain ⟨k, rfl, hne, -⟩ := he
      exact absurd h hne
  · obtain ⟨k, rfl, hk⟩ := accept_refused site h
    rw [hk]
    constructor
    · intro he
      cases he
      exact ⟨k, rfl, h, rfl⟩
    · intro he
      obtain ⟨j, hj, -, rfl⟩ := he
      cases hj
      rfl

/-- A child is refused when it does not build, or builds to another kind. -/
theorem child_eq_error {v : Json} {e : BuildError} :
    (cx.build v >>= site.accept c) = .error e ↔
      cx.build v = .error e ∨ cx.Unexpected site c v e := by
  rw [Outcome.bind_eq_error]
  simp only [accept_eq_error]
  refine or_congr_right ⟨fun h => ?_, fun h => ?_⟩
  · obtain ⟨⟨found, t⟩, hn, k, rfl, hne, rfl⟩ := h
    exact .child ⟨t, hn⟩ hne
  · cases h with
    | child built differs =>
      obtain ⟨t, ht⟩ := built
      exact ⟨_, ht, _, rfl, differs, rfl⟩

/-- A child is taken when it builds to a kind of the class. -/
theorem exists_child {v : Json} :
    (∃ m, (cx.build v >>= site.accept c) = .ok m) ↔
      (Shape.required c).Filled cx.Builds (some v) := by
  simp only [child_eq_ok]
  constructor
  · intro h
    obtain ⟨m, hm⟩ := h
    exact .required m.2 ⟨m.1.tree, hm⟩
  · intro h
    cases h with
    | required admits child =>
      obtain ⟨t, ht⟩ := child
      exact ⟨⟨⟨_, t⟩, admits⟩, ht⟩

/-! ### Reading a slot -/

theorem scalar_eq_error {s : Scalar} {value : Option Json} {e : BuildError} :
    site.scalar value s = .error e ↔ cx.SlotFault site (.scalar s) value e := by
  constructor
  · intro h
    cases value with
    | none =>
      have hs : s ≠ .flag := by
        intro hs
        subst hs
        cases h
      rw [scalar_none hs] at h
      cases h
      exact .missing hs
    | some v =>
      have hunread : ∀ x, ¬ s.Reads (some v) x := by
        intro x hx
        rw [scalar_eq_ok.mpr hx] at h
        cases h
      rw [scalar_refused hunread] at h
      cases h
      exact .scalar hunread
  · intro h
    cases h with
    | missing needed => exact scalar_none needed
    | scalar unread => exact scalar_refused unread

theorem childOf_eq_error {value : Option Json} {e : BuildError} :
    site.childOf c (value.map cx.part) = .error e ↔
      cx.SlotFault site (.required c) value e ∨
        ∃ v, cx.Enters (.required c) value v ∧ cx.build v = .error e := by
  cases value with
  | none =>
    refine ⟨fun h => ?_, fun h => ?_⟩
    · cases h
      exact .inl (.missing trivial)
    · rcases h with h | ⟨v, hv, -⟩
      · cases h
        rfl
      · cases hv
  | some v =>
    rw [Option.map_some, childOf_some, child_eq_error]
    refine ⟨fun h => ?_, fun h => ?_⟩
    · rcases h with h | h
      · exact .inr ⟨v, .required, h⟩
      · exact .inl (.required h)
    · rcases h with h | ⟨w, hw, h⟩
      · cases h with
        | required unexpected => exact .inr unexpected
      · cases hw
        exact .inl h

theorem childOf?_eq_error {value : Option Json} {e : BuildError} :
    site.childOf? c (value.map cx.part) = .error e ↔
      cx.SlotFault site (.optional c) value e ∨
        ∃ v, cx.Enters (.optional c) value v ∧ cx.build v = .error e := by
  cases value with
  | none =>
    constructor
    · intro h
      cases h
    · intro h
      rcases h with h | ⟨v, hv, -⟩
      · cases h with
        | missing needed => exact needed.elim
      · cases hv
  | some v =>
    rw [Option.map_some, childOf?_some, Outcome.map_eq_error, child_eq_error]
    refine ⟨fun h => ?_, fun h => ?_⟩
    · rcases h with h | h
      · exact .inr ⟨v, .optional, h⟩
      · exact .inl (.optional h)
    · rcases h with h | ⟨w, hw, h⟩
      · cases h with
        | optional unexpected => exact .inr unexpected
      · cases hw
        exact .inl h

/-- The items of an array are refused for the first that does not build, and only if
there is none for the first of another kind. -/
theorem childrenOf_array_eq_error {items : List Json} {e : BuildError} :
    site.childrenOf c (some (cx.part (.array items))) = .error e ↔
      ∃ earlier v later, items = earlier ++ v :: later ∧
        ((∀ x ∈ earlier, ∃ n, cx.build x = .ok n) ∧ cx.build v = .error e ∨
          (∀ x ∈ items, ∃ n, cx.build x = .ok n) ∧
            (∀ x ∈ earlier, (Shape.required c).Filled cx.Builds (some x)) ∧
              cx.Unexpected site c v e) := by
  rw [childrenOf_array, Outcome.mapM_mapM_eq_error, Outcome.mapM_eq_error, Outcome.mapM_eq_error]
  simp only [exists_child, child_eq_error]
  constructor
  · intro h
    rcases h with ⟨earlier, v, later, hitems, hearlier, hv⟩ | ⟨hbuilt, earlier, v, later, hitems, hearlier, hv⟩
    · exact ⟨earlier, v, later, hitems, .inl ⟨hearlier, hv⟩⟩
    · have hmem : v ∈ items := hitems ▸ List.mem_append_right earlier (List.mem_cons_self ..)
      obtain ⟨n, hn⟩ := hbuilt v hmem
      rcases hv with hv | hv
      · rw [hn] at hv
        cases hv
      · exact ⟨earlier, v, later, hitems, .inr ⟨hbuilt, hearlier, hv⟩⟩
  · intro h
    obtain ⟨earlier, v, later, hitems, h⟩ := h
    rcases h with ⟨hearlier, hv⟩ | ⟨hbuilt, hearlier, hv⟩
    · exact .inl ⟨earlier, v, later, hitems, hearlier, hv⟩
    · exact .inr ⟨hbuilt, earlier, v, later, hitems, hearlier, .inr hv⟩

theorem childrenOf_eq_error {value : Option Json} {e : BuildError} :
    site.childrenOf c (value.map cx.part) = .error e ↔
      cx.SlotFault site (.sequence c) value e ∨
        ∃ v, cx.Enters (.sequence c) value v ∧ cx.build v = .error e := by
  cases value with
  | none =>
    constructor
    · intro h
      cases h
    · intro h
      rcases h with h | ⟨v, hv, -⟩
      · cases h with
        | missing needed => exact needed.elim
      · cases hv
  | some value =>
    rw [Option.map_some]
    by_cases harray : ∃ items, value = .array items
    · obtain ⟨items, rfl⟩ := harray
      rw [childrenOf_array_eq_error]
      refine ⟨fun h => ?_, fun h => ?_⟩
      · obtain ⟨earlier, v, later, rfl, h⟩ := h
        rcases h with ⟨hearlier, hv⟩ | ⟨hbuilt, hearlier, hv⟩
        · exact .inr ⟨v, .item hearlier, hv⟩
        · exact .inl (.item hbuilt hearlier hv)
      · rcases h with h | ⟨v, hv, h⟩
        · cases h with
          | notArray other => exact absurd rfl (other items)
          | item built taken unexpected => exact ⟨_, _, _, rfl, .inr ⟨built, taken, unexpected⟩⟩
        · cases hv with
          | item built => exact ⟨_, _, _, rfl, .inl ⟨built, h⟩⟩
    · have hother : ∀ items, value ≠ .array items := fun items h => harray ⟨items, h⟩
      rw [childrenOf_not_array cx hother]
      refine ⟨fun h => ?_, fun h => ?_⟩
      · cases h
        exact .inl (.notArray hother)
      · rcases h with h | ⟨v, hv, -⟩
        · cases h with
          | notArray => rfl
          | item => exact absurd rfl (hother _)
        · cases hv with
          | item => exact absurd rfl (hother _)

/-- A slot is refused for a fault of its own, or with the refusal of a child. -/
theorem entry_eq_error {shape : Shape} {value : Option Json} {e : BuildError} :
    site.entry (value.map cx.part) shape = .error e ↔
      cx.SlotFault site shape value e ∨
        ∃ v, cx.Enters shape value v ∧ cx.build v = .error e := by
  cases shape with
  | scalar s =>
    show Entry.scalar <$> site.scalar ((value.map cx.part).map (·.value)) s = .error e ↔ _
    rw [cx.map_part_value]
    refine Outcome.map_eq_error.trans (scalar_eq_error.trans (or_iff_left ?_).symm)
    intro h
    obtain ⟨v, hv, -⟩ := h
    cases hv
  | required c => exact Outcome.map_eq_error.trans childOf_eq_error
  | optional c => exact Outcome.map_eq_error.trans childOf?_eq_error
  | sequence c => exact Outcome.map_eq_error.trans childrenOf_eq_error

end Site

/-! ### Reading a production -/

/-- Slots are refused with the first refusal among them. -/
theorem Entries.read_eq_error {k : Kind} {part? : String → Option Part} {slots : List Slot}
    {e : BuildError} :
    Entries.read k part? slots = .error e ↔
      ∃ before s after, slots = before ++ s :: after ∧
        (∀ t ∈ before, ∃ a, Site.entry ⟨k, t.property⟩ (part? t.property) t.shape = .ok a) ∧
        Site.entry ⟨k, s.property⟩ (part? s.property) s.shape = .error e := by
  induction slots with
  | nil =>
    constructor
    · intro h
      cases h
    · intro h
      obtain ⟨before, s, after, h, -⟩ := h
      cases before <;> cases h
  | cons t rest ih =>
    rw [Entries.read, Outcome.bind_eq_error]
    constructor
    · intro h
      rcases h with h | ⟨a, ha, h⟩
      · exact ⟨[], t, rest, rfl, List.forall_mem_nil _, h⟩
      · have hrest : Entries.read k part? rest = .error e := by
          rcases Outcome.bind_eq_error.mp h with h | ⟨_, _, h⟩
          · exact h
          · cases h
        obtain ⟨before, s, after, rfl, hbefore, hs⟩ := ih.mp hrest
        exact ⟨t :: before, s, after, rfl, List.forall_mem_cons.mpr ⟨⟨a, ha⟩, hbefore⟩, hs⟩
    · intro h
      obtain ⟨before, s, after, h, hbefore, hs⟩ := h
      cases before with
      | nil =>
        obtain ⟨rfl, -⟩ := List.cons.inj h
        exact .inl hs
      | cons u us =>
        obtain ⟨rfl, rfl⟩ := List.cons.inj h
        obtain ⟨⟨a, ha⟩, hus⟩ := List.forall_mem_cons.mp hbefore
        have hrest := ih.mpr ⟨us, s, after, rfl, hus, hs⟩
        exact .inr ⟨a, ha, Outcome.bind_eq_error.mpr (.inl hrest)⟩

namespace Context

variable (cx : Context)

/-- Reading a fragment gets as far as a slot: it names the slot's kind, and every slot
in front of it is filled. -/
def Reaches (v : Json) (k : Kind) (s : Slot) : Prop :=
  v.Tagged k ∧ ∃ before after, grammar k = before ++ s :: after ∧
    ∀ t ∈ before, t.shape.Filled cx.Builds (v.property? t.property)

/-- A child that is built when a fragment is read. -/
def Descends (v c : Json) : Prop :=
  ∃ k s, cx.Reaches v k s ∧ cx.Enters s.shape (v.property? s.property) c

/-- What is wrong with a fragment, apart from children that do not build. The location
is looked at last. -/
inductive Fault : Json → BuildError → Prop
  | malformed {v : Json} (untagged : ∀ tag, v.member? kindProperty ≠ some (.string tag)) :
      Fault v .malformedFragment
  | unknown {v : Json} {tag : String} (tagged : v.member? kindProperty = some (.string tag))
      (other : ∀ k : Kind, k.tag ≠ tag) :
      Fault v (.unknownKind tag)
  | slot {v : Json} {k : Kind} {s : Slot} {e : BuildError} (reached : cx.Reaches v k s)
      (fault : cx.SlotFault ⟨k, s.property⟩ s.shape (v.property? s.property) e) :
      Fault v e
  | location {v : Json} {k : Kind} (tagged : v.Tagged k)
      (slots : ∀ s ∈ grammar k, s.shape.Filled cx.Builds (v.property? s.property))
      (unordered : ¬ v.Ordered) :
      Fault v (.invalidProperty k locationProperty "start <= end")

variable {cx} {v : Json} {e : BuildError}

theorem Descends.child {c : Json} (h : cx.Descends v c) : Json.Child c v := by
  obtain ⟨k, s, -, hc⟩ := h
  exact ⟨s.property, hc.stands⟩

/-- A fragment of a served kind is refused at the first slot that is not filled, and
only if all are for its location. -/
theorem build_tagged_eq_error {k : Kind} (hs : cx.Serves k) (h : v.Tagged k) :
    cx.build v = .error e ↔
      (∃ s, cx.Reaches v k s ∧
        (cx.SlotFault ⟨k, s.property⟩ s.shape (v.property? s.property) e ∨
          ∃ c, cx.Enters s.shape (v.property? s.property) c ∧ cx.build c = .error e)) ∨
      (∀ s ∈ grammar k, s.shape.Filled cx.Builds (v.property? s.property)) ∧
        ¬ v.Ordered ∧ e = .invalidProperty k locationProperty "start <= end" := by
  have hslots : Entries.read k (cx.partOf v) (grammar k) = .error e ↔
      ∃ s, cx.Reaches v k s ∧
        (cx.SlotFault ⟨k, s.property⟩ s.shape (v.property? s.property) e ∨
          ∃ c, cx.Enters s.shape (v.property? s.property) c ∧ cx.build c = .error e) := by
    rw [Entries.read_eq_error]
    simp only [partOf, Site.entry_eq_ok, Site.entry_eq_error, ← filled_iff]
    constructor
    · intro h'
      obtain ⟨before, s, after, hgrammar, hbefore, hs⟩ := h'
      exact ⟨s, ⟨h, before, after, hgrammar, hbefore⟩, hs⟩
    · intro h'
      obtain ⟨s, ⟨-, before, after, hgrammar, hbefore⟩, hs⟩ := h'
      exact ⟨before, s, after, hgrammar, hbefore, hs⟩
  rw [cx.build_served hs h, Outcome.map_eq_error, Tree.read, Outcome.bind_eq_error, hslots]
  refine or_congr_right ?_
  rw [← exists_fillsAll, partOf, cx.map_part_value]
  simp only [read_partOf, Outcome.bind_eq_error, Site.location_eq_error]
  constructor
  · intro h'
    obtain ⟨es, hes, hlocation | ⟨_, _, h'⟩⟩ := h'
    · exact ⟨⟨es, hes⟩, hlocation⟩
    · cases h'
  · intro h'
    obtain ⟨⟨es, hes⟩, hlocation⟩ := h'
    exact ⟨es, hes, .inl hlocation⟩

/-- A value is refused for a fault of its own, or with the refusal of a child that is
built when it is read. -/
theorem build_eq_error (served : ∀ k, cx.Serves k) :
    cx.build v = .error e ↔ cx.Fault v e ∨ ∃ c, cx.Descends v c ∧ cx.build c = .error e := by
  constructor
  · intro h
    rcases v.tagged_cases with ⟨k, hk⟩ | ⟨tag, htag, hno⟩ | hno
    · rcases (build_tagged_eq_error (served k) hk).mp h with ⟨s, hreaches, hs⟩ | ⟨hslots, hv, rfl⟩
      · rcases hs with hfault | ⟨c, hc, he⟩
        · exact .inl (.slot hreaches hfault)
        · exact .inr ⟨c, ⟨k, s, hreaches, hc⟩, he⟩
      · exact .inl (.location hk hslots hv)
    · rw [cx.build_unknown htag hno] at h
      cases h
      refine .inl (.unknown htag fun k hk => ?_)
      rw [← hk, Kind.ofTag?_tag] at hno
      cases hno
    · rw [cx.build_malformed hno] at h
      cases h
      exact .inl (.malformed hno)
  · intro h
    rcases h with hfault | ⟨c, ⟨k, s, hreaches, hc⟩, he⟩
    · cases hfault with
      | malformed untagged => exact cx.build_malformed untagged
      | @unknown tag tagged other =>
        have hno : Kind.ofTag? tag = none := by
          cases hk : Kind.ofTag? tag with
          | none => rfl
          | some k => exact absurd (Kind.tag_of_ofTag? hk) (other k)
        exact cx.build_unknown tagged hno
      | @slot k s _ reached fault =>
        exact (build_tagged_eq_error (served k) reached.1).mpr (.inl ⟨s, reached, .inl fault⟩)
      | @location k tagged slots unordered =>
        exact (build_tagged_eq_error (served k) tagged).mpr (.inr ⟨slots, unordered, rfl⟩)
    · exact (build_tagged_eq_error (served k) hreaches.1).mpr
        (.inl ⟨s, hreaches, .inr ⟨c, hc, he⟩⟩)

/-- A value is refused with the fault that its refused children lead down to. -/
theorem build_eq_error_iff (served : ∀ k, cx.Serves k) :
    cx.build v = .error e ↔ ∃ w, Relation.ReflTransGen cx.Descends v w ∧ cx.Fault w e := by
  constructor
  · induction v using Json.childInduction with
    | step v ih =>
      intro h
      rcases (build_eq_error served).mp h with hfault | ⟨c, hc, he⟩
      · exact ⟨v, .refl, hfault⟩
      · obtain ⟨w, hw, hfault⟩ := ih c hc.child he
        exact ⟨w, .head hc hw, hfault⟩
  · intro h
    obtain ⟨w, hw, hfault⟩ := h
    induction hw using Relation.ReflTransGen.head_induction_on with
    | refl => exact (build_eq_error served).mpr (.inl hfault)
    | head hc _ ih => exact (build_eq_error served).mpr (.inr ⟨_, hc, ih⟩)

end Context

-- The second argument does not build, so the kind of the first is not looked at.
example :
    Node.ofJson (.ofBody "") (.object [("kind", .string "Field"),
      ("name", .object [("kind", .string "Name"), ("value", .string "a")]),
      ("arguments", .array [.object [("kind", .string "NullValue")], .object []])]) =
      .error .malformedFragment := rfl

end GraphQL
