import GraphQL.Proofs.FirstFault

/-! Builds with fewer builders, or with builders that claim what they cannot build.

A kind is served when the builder that claims it can build it. Faults, filled slots
and the way down to a child are all said in terms of what the children build to, so
each of them passes from one context to another in which the children still build to
the same (the lemmas named `mono`). The only fault that does not pass is a kind that is
not served; `Context.build_eq_or_unserved` follows it up from where it is met. -/
namespace GraphQL

/-! ### Kinds that are served -/

/-- The builder of an area claims just the kinds that it can build. -/
theorem Builder.supports_ofArea (a : Area) (k : Kind) :
    (ofArea a).supports k = (a.arm? k).isSome := (a.arm?_isSome k).symm

namespace Registry

/-- A builder of the registry claims the kind, and so does the standard builder of its
area, which is the one that builds for it. -/
def Serves (r : Registry) (k : Kind) : Prop :=
  ∃ b ∈ r.builders, b.supports k = true ∧ (Builder.ofArea b.area).supports k = true

theorem claimants_length_le (r : Registry) (k : Kind) :
    (r.builders.filter (·.supports k)).length ≤ 1 := by
  have h := List.findSome?_eq_none_iff.mp r.unambiguous k k.mem_all
  split at h
  · cases h
  · next hno =>
    cases hclaimants : r.builders.filter (·.supports k) with
    | nil => simp
    | cons first rest =>
      cases rest with
      | nil => simp
      | cons second others => exact absurd hclaimants (hno first second others)

/-- The builder found first for a kind is the only one that claims it. -/
theorem claimant?_eq_some (r : Registry) {k : Kind} {b : Builder} :
    r.claimant? k = some b ↔ b ∈ r.builders ∧ b.supports k = true := by
  constructor
  · intro h
    have hfind : r.builders.find? (·.supports k) = some b := h
    exact ⟨List.mem_of_find?_eq_some hfind, (List.find?_eq_some_iff_append.mp hfind).1⟩
  · intro h
    have hmem : b ∈ r.builders.filter (·.supports k) := List.mem_filter.mpr h
    have hle := r.claimants_length_le k
    show r.builders.find? (·.supports k) = some b
    rw [← List.head?_filter]
    cases hclaimants : r.builders.filter (·.supports k) with
    | nil =>
      rw [hclaimants] at hmem
      cases hmem
    | cons first rest =>
      rw [hclaimants] at hmem hle
      have hrest : rest = [] := by simpa using hle
      subst hrest
      rw [List.mem_singleton.mp hmem, List.head?_cons]

end Registry

namespace Context

theorem serves_iff (cx : Context) (k : Kind) : cx.Serves k ↔ cx.registry.Serves k := by
  have hdispatch (b : Builder) :
      cx.registry.dispatch k = .ok b ↔ b ∈ cx.registry.builders ∧ b.supports k = true := by
    rw [← cx.registry.claimant?_eq_some, Registry.dispatch]
    cases cx.registry.claimant? k <;> simp
  simp only [Serves, Registry.Serves, hdispatch, Builder.supports_ofArea, Builder.builds, and_assoc]

/-! ### What passes to a context in which the children still build -/

section
variable {cx cx' : Context} {value : Option Json}
  (h : ∀ c, Json.Stands c value → ∀ n, cx.build c = .ok n → cx'.build c = .ok n)
include h

theorem Builds.mono : ∀ c, Json.Stands c value → ∀ k, cx.Builds k c → cx'.Builds k c := by
  intro c hc k hk
  obtain ⟨t, ht⟩ := hk
  exact ⟨t, h c hc _ ht⟩

theorem Fills.mono {shape : Shape} {e : Entry shape} (he : cx.Fills value e) :
    cx'.Fills value e := by
  cases he with
  | scalar reads => exact .scalar reads
  | required admits built => exact .required admits (h _ .alone _ built)
  | absent => exact .absent
  | present admits built => exact .present admits (h _ .alone _ built)
  | noItems => exact .noItems
  | @items c items children built =>
    have hmem : ∀ v ∈ items, v ∈ items := fun _ hv => hv
    exact .items (((List.forall₂_and_left _ _).mpr ⟨hmem, built⟩).imp
      fun v n hv => h v (.item hv.1) n.1 hv.2)

theorem Unexpected.mono {site : Site} {c : Class} {v : Json} {e : BuildError}
    (hv : Json.Stands v value) (he : cx.Unexpected site c v e) : cx'.Unexpected site c v e := by
  cases he with
  | child built differs => exact .child (Builds.mono h v hv _ built) differs

theorem SlotFault.mono {site : Site} {shape : Shape} {e : BuildError}
    (he : cx.SlotFault site shape value e) : cx'.SlotFault site shape value e := by
  cases he with
  | missing needed => exact .missing needed
  | scalar unread => exact .scalar unread
  | notArray other => exact .notArray other
  | required unexpected => exact .required (unexpected.mono h .alone)
  | optional unexpected => exact .optional (unexpected.mono h .alone)
  | @item c earlier later v e built taken unexpected =>
    have hitem : ∀ x ∈ earlier ++ v :: later, Json.Stands x (some (.array (earlier ++ v :: later))) :=
      fun _ hx => .item hx
    refine .item (fun x hx => ?_) (fun x hx => ?_) (unexpected.mono h (hitem v (by simp)))
    · obtain ⟨n, hn⟩ := built x hx
      exact ⟨n, h x (hitem x hx) n hn⟩
    · cases taken x hx with
      | required admits child =>
        exact .required admits (Builds.mono h x (hitem x (List.mem_append_left _ hx)) _ child)

theorem Enters.mono {shape : Shape} {c : Json} (hc : cx.Enters shape value c) :
    cx'.Enters shape value c := by
  cases hc with
  | required => exact .required
  | optional => exact .optional
  | @item c earlier later v built =>
    refine .item fun x hx => ?_
    obtain ⟨n, hn⟩ := built x hx
    exact ⟨n, h x (.item (List.mem_append_left _ hx)) n hn⟩

end

section
variable {cx cx' : Context} {v : Json}
  (h : ∀ c, Json.Child c v → ∀ n, cx.build c = .ok n → cx'.build c = .ok n)
include h

theorem filled_mono {slots : List Slot}
    (hslots : ∀ s ∈ slots, s.shape.Filled cx.Builds (v.property? s.property)) :
    ∀ s ∈ slots, s.shape.Filled cx'.Builds (v.property? s.property) := fun s hs =>
  (hslots s hs).mono (Builds.mono fun c hc => h c ⟨s.property, hc⟩)

theorem FillsAll.mono {slots : List Slot} {es : Entries slots} (hes : cx.FillsAll v es) :
    cx'.FillsAll v es := by
  induction slots with
  | nil =>
    cases es
    trivial
  | cons s rest ih =>
    cases es with
    | cons e es => exact ⟨hes.1.mono fun c hc => h c ⟨s.property, hc⟩, ih hes.2⟩

theorem Reaches.mono {k : Kind} {s : Slot} (hs : cx.Reaches v k s) : cx'.Reaches v k s := by
  obtain ⟨hk, before, after, hgrammar, hbefore⟩ := hs
  exact ⟨hk, before, after, hgrammar, filled_mono h hbefore⟩

/-! ### Builds with fewer kinds served -/

variable (hsource : cx.source = cx'.source) (hserves : ∀ k, cx.Serves k → cx'.Serves k)
include hserves

include hsource in
theorem build_ok_mono {n : Node} (hn : cx.build v = .ok n) : cx'.build v = .ok n := by
  obtain ⟨k, ⟨es, l⟩⟩ := n
  obtain ⟨hk, htag, hes, hl⟩ := cx.build_eq_ok.mp hn
  have hl' : cx'.Locates v l := ⟨hl.1, hsource ▸ hl.2⟩
  exact cx'.build_eq_ok.mpr ⟨hserves k hk, htag, hes.mono h, hl'⟩

/-- A fragment of a served kind is refused for the same, unless it is for a child that
is not refused for the same. -/
theorem build_error_mono {k : Kind} {e : BuildError} (hs : cx.Serves k) (hk : v.Tagged k)
    (he : cx.build v = .error e) :
    cx'.build v = .error e ∨
      ∃ c, cx.Descends v c ∧ cx.build c = .error e ∧ cx'.build c ≠ .error e := by
  rw [build_tagged_eq_error (hserves k hs) hk]
  rcases (build_tagged_eq_error hs hk).mp he with
    ⟨s, hreaches, hfault | ⟨c, hc, he⟩⟩ | ⟨hslots, hordered, he⟩
  · have hfault' := hfault.mono fun c hc => h c ⟨s.property, hc⟩
    exact .inl (.inl ⟨s, hreaches.mono h, .inl hfault'⟩)
  · by_cases he' : cx'.build c = .error e
    · have hc' := hc.mono fun c hc => h c ⟨s.property, hc⟩
      exact .inl (.inl ⟨s, hreaches.mono h, .inr ⟨c, hc', he'⟩⟩)
    · exact .inr ⟨c, ⟨k, s, hreaches, hc⟩, he, he'⟩
  · exact .inl (.inr ⟨filled_mono h hslots, hordered, he⟩)

end

/-- With fewer kinds served a value builds to the same, or reading it leads down to a
fragment of a kind that is not served, and that is its error. -/
theorem build_eq_or_unserved {cx cx' : Context} (hsource : cx.source = cx'.source)
    (hserves : ∀ k, cx.Serves k → cx'.Serves k) (v : Json) :
    cx.build v = cx'.build v ∨
      ∃ w k, Relation.ReflTransGen cx.Descends v w ∧ w.Tagged k ∧ ¬ cx.Serves k ∧
        cx.build v = .error (.unknownKind k.tag) := by
  induction v using Json.childInduction with
  | step v ih =>
    have hchild : ∀ c, Json.Child c v → ∀ n, cx.build c = .ok n → cx'.build c = .ok n := by
      intro c hc n hn
      rcases ih c hc with h | ⟨_, _, _, _, _, h⟩
      · rw [← h, hn]
      · rw [hn] at h
        cases h
    rcases v.tagged_cases with ⟨k, hk⟩ | ⟨tag, htag, hno⟩ | hno
    · by_cases hs : cx.Serves k
      · cases hbuild : cx.build v with
        | ok n => exact .inl (build_ok_mono hchild hsource hserves hbuild).symm
        | error e =>
          rcases build_error_mono hchild hserves hs hk hbuild with h | ⟨c, hc, he, hne⟩
          · exact .inl h.symm
          · rcases ih c hc.child with h | ⟨w, j, hw, hj, hno, h⟩
            · exact absurd (h ▸ he) hne
            · exact .inr ⟨w, j, .head hc hw, hj, hno, he ▸ h⟩
      · exact .inr ⟨v, k, .refl, hk, hs, cx.build_unserved hs hk⟩
    · exact .inl ((cx.build_unknown htag hno).trans (cx'.build_unknown htag hno).symm)
    · exact .inl ((cx.build_malformed hno).trans (cx'.build_malformed hno).symm)

end Context

/-- **Whatever builders a registry has, a value builds as with the standard ones, unless
reading it leads to a fragment of a known kind that is not served.** Then that kind is
reported as unknown; so what builds at all builds to the standard node. -/
theorem build_eq_ofJson_or_unserved (r : Registry) (source : Source) (v : Json) :
    let cx : Context := ⟨r, source⟩
    (cx.build v = Node.ofJson source v ∨
        ∃ w k, Relation.ReflTransGen cx.Descends v w ∧ w.Tagged k ∧ ¬ r.Serves k ∧
          cx.build v = .error (.unknownKind k.tag)) ∧
      (∀ n, cx.build v = .ok n → Node.ofJson source v = .ok n) ∧
      ((∀ w k, Relation.ReflTransGen cx.Descends v w → w.Tagged k → r.Serves k) →
        cx.build v = Node.ofJson source v) := by
  intro cx
  have hsource : cx.source = (Context.mk .standard source).source := rfl
  have h := Context.build_eq_or_unserved hsource (fun k _ => Context.standard_serves source k) v
  simp only [cx.serves_iff] at h
  change cx.build v = Node.ofJson source v ∨ _ at h
  refine ⟨h, fun n hn => ?_, fun hserved => ?_⟩
  · rcases h with h | ⟨_, _, _, _, _, h⟩
    · rw [← h, hn]
    · rw [hn] at h
      cases h
  · rcases h with h | ⟨w, k, hw, hk, hno, _⟩
    · exact h
    · exact absurd (hserved w k hw hk) hno

-- The builder claims null values as well, but builds for an area that they are not in.
example :
    (Context.mk ⟨[⟨"lists", [.listType, .nullValue], .typeReferences⟩], by decide⟩
      (.ofBody "")).build (.object [("kind", .string "ListType"),
        ("type", .object [("kind", .string "NullValue")])]) =
      .error (.unknownKind "NullValue") := rfl

end GraphQL
