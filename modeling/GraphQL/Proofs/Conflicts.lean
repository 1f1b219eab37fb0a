import GraphQL.Proofs.Registries
import Mathlib.Data.List.FinRange

/-! Which lists of builders make a registry.

A list is refused when two of its entries claim one kind, and the first such kind is
reported with the first two that claim it (`Conflict`). In a list that is accepted every
kind has at most one claimant, and fragments of the kind go to it.

A table of dispatch is filled kind by kind, each kind by going over the list, and filling
it stops at the first entry that is already taken (`Table.fill`). Going over the list for
a kind that has no entry yet either enters its only claimant or ends in the kind's
conflict (`Table.enterAll_eq`); so all of it fails with the conflict that is reported, or
leaves every kind its claimant (`Table.foldlM_enterAll`). -/
namespace GraphQL

/-! ### Conflicts -/

section
variable (builders : List Builder)

/-- Two entries of the list claim the kind. -/
def Contested (k : Kind) : Prop :=
  ∃ i j : Fin builders.length, i < j ∧
    (builders.get i).supports k = true ∧ (builders.get j).supports k = true

/-- The conflict that a list is refused with: the first kind that is contested, and the
first two entries that claim it. -/
inductive Conflict : RegistryError → Prop
  | intro {k : Kind} {i j : Fin builders.length} (lt : i < j)
      (first : (builders.get i).supports k = true) (second : (builders.get j).supports k = true)
      (between : ∀ m, m < j → (builders.get m).supports k = true → m = i)
      (earlier : ∀ l : Kind, l.index < k.index → ¬ Contested builders l) :
      Conflict (.duplicateBuilder k (builders.get i).name (builders.get j).name)

/-- The indices of the entries that claim a kind, in order. -/
def claimants (k : Kind) : List (Fin builders.length) :=
  (List.finRange builders.length).filter fun i => (builders.get i).supports k

/-- The conflict over one kind. -/
def conflictAt? (k : Kind) : Option RegistryError :=
  match builders.filter (·.supports k) with
  | first :: second :: _ => some (.duplicateBuilder k first.name second.name)
  | _ => none

theorem conflict?_eq : conflict? builders = Kind.all.findSome? (conflictAt? builders) := rfl

end

section
variable {builders : List Builder} {k : Kind} {i j : Fin builders.length}

theorem mem_claimants : i ∈ claimants builders k ↔ (builders.get i).supports k = true := by
  simp [claimants]

theorem pairwise_claimants : (claimants builders k).Pairwise (· < ·) :=
  (List.pairwise_lt_finRange builders.length).filter _

theorem map_get_claimants :
    (claimants builders k).map builders.get = builders.filter (·.supports k) := by
  conv_rhs => rw [← List.map_get_finRange builders]
  rw [List.filter_map]
  rfl

/-- The first two claimants, if there are two. -/
theorem claimants_cons_cons {rest : List (Fin builders.length)}
    (h : claimants builders k = i :: j :: rest) :
    i < j ∧ (builders.get i).supports k = true ∧ (builders.get j).supports k = true ∧
      ∀ m, m < j → (builders.get m).supports k = true → m = i := by
  have hsorted : (i :: j :: rest).Pairwise (· < ·) := h ▸ pairwise_claimants
  obtain ⟨hfirst, hrest⟩ := List.pairwise_cons.mp hsorted
  have hlater := (List.pairwise_cons.mp hrest).1
  refine ⟨hfirst j (List.mem_cons_self ..), ?_, ?_, fun m hm hclaims => ?_⟩
  · exact mem_claimants.mp (h ▸ List.mem_cons_self ..)
  · exact mem_claimants.mp (h ▸ List.mem_cons_of_mem i (List.mem_cons_self ..))
  · have hmem : m ∈ i :: j :: rest := h ▸ mem_claimants.mpr hclaims
    rcases List.mem_cons.mp hmem with hi | hmem
    · exact hi
    · rcases List.mem_cons.mp hmem with hj | hmem
      · exact absurd hm (hj ▸ lt_irrefl j)
      · exact absurd hm (lt_asymm (hlater m hmem))

/-- A kind has at most one claimant, or there is a conflict between the first two. -/
theorem claimants_cases (builders : List Builder) (k : Kind) :
    (∃ only : Option (Fin builders.length), claimants builders k = only.toList ∧
        conflictAt? builders k = none) ∨
      ∃ i j rest, claimants builders k = i :: j :: rest ∧ conflictAt? builders k =
        some (.duplicateBuilder k (builders.get i).name (builders.get j).name) := by
  rw [conflictAt?, ← map_get_claimants]
  cases claimants builders k with
  | nil => exact .inl ⟨none, rfl, rfl⟩
  | cons first rest =>
    cases rest with
    | nil => exact .inl ⟨some first, rfl, rfl⟩
    | cons second rest => exact .inr ⟨first, second, rest, rfl, rfl⟩

theorem contested_iff : Contested builders k ↔ (conflictAt? builders k).isSome = true := by
  rcases claimants_cases builders k with ⟨only, honly, hnone⟩ | ⟨first, second, rest, htwo, hsome⟩
  · rw [hnone]
    refine iff_of_false (fun h => ?_) Bool.false_ne_true
    obtain ⟨i, j, hlt, hi, hj⟩ := h
    rw [← mem_claimants, honly, Option.mem_toList] at hi hj
    exact absurd hlt (Option.some.inj (hi.symm.trans hj) ▸ lt_irrefl i)
  · rw [hsome]
    obtain ⟨hlt, hfirst, hsecond, -⟩ := claimants_cons_cons htwo
    exact iff_of_true ⟨first, second, hlt, hfirst, hsecond⟩ rfl

/-- Of the kinds, those in front of another are those of a smaller index. -/
theorem Kind.mem_of_index_lt {before after : List Kind} {l : Kind}
    (hall : Kind.all = before ++ k :: after) (hlt : l.index < k.index) : l ∈ before := by
  have hk : k ∉ before := by
    have hnodup := hall ▸ Kind.nodup_all
    have hdisjoint := (List.nodup_append.mp hnodup).2.2
    exact fun hmem => hdisjoint k hmem k (List.mem_cons_self ..) rfl
  have hindex : k.index = before.length := by
    rw [Kind.index, hall, List.idxOf_append_of_notMem hk, List.idxOf_cons_self, Nat.add_zero]
  rw [hindex] at hlt
  by_contra hno
  rw [Kind.index, hall, List.idxOf_append_of_notMem hno] at hlt
  omega

/-- What is reported is the first conflict there is. -/
theorem conflict_of_conflict? {e : RegistryError} (h : conflict? builders = some e) :
    Conflict builders e := by
  rw [conflict?_eq, List.findSome?_eq_some_iff] at h
  obtain ⟨before, k, after, hall, hk, hbefore⟩ := h
  have hearlier : ∀ l : Kind, l.index < k.index → ¬ Contested builders l := by
    intro l hl hcontested
    rw [contested_iff, hbefore l (Kind.mem_of_index_lt hall hl)] at hcontested
    cases hcontested
  rcases claimants_cases builders k with ⟨only, -, hnone⟩ | ⟨first, second, rest, htwo, hsome⟩
  · rw [hnone] at hk
    cases hk
  · rw [hsome] at hk
    cases hk
    obtain ⟨hlt, hfirst, hsecond, hbetween⟩ := claimants_cons_cons htwo
    exact .intro hlt hfirst hsecond hbetween hearlier

theorem exists_conflict?_iff :
    (∃ e, conflict? builders = some e) ↔ ∃ k, Contested builders k := by
  rw [← Option.isSome_iff_exists, conflict?_eq, List.findSome?_isSome_iff]
  simp only [contested_iff, Kind.mem_all, true_and]

end

namespace Registry

variable {builders : List Builder}

theorem ofBuilders_eq_error {e : RegistryError} :
    ofBuilders builders = .error e ↔ conflict? builders = some e := by
  unfold ofBuilders
  split
  · next h => simp [h]
  · next h => simp [h]

theorem ofBuilders_eq_ok {r : Registry} :
    ofBuilders builders = .ok r ↔ r.builders = builders := by
  unfold ofBuilders
  split
  · next h =>
    rw [Except.ok.injEq]
    constructor
    · rintro rfl
      rfl
    · rintro rfl
      rfl
  · next e h =>
    constructor
    · intro h
      cases h
    · rintro rfl
      rw [r.unambiguous] at h
      cases h

end Registry

/-! ### Tables -/

/-- A table of dispatch: for a kind, the index of an entry of the list. -/
abbrev Table (builders : List Builder) : Type := List (Kind × Fin builders.length)

namespace Table

variable (builders : List Builder)

/-- Enters a builder for a kind, if it claims it. -/
def enter (k : Kind) (table : Table builders) (i : Fin builders.length) :
    Except RegistryError (Table builders) :=
  if (builders.get i).supports k then
    match table.lookup k with
    | some first => .error (.duplicateBuilder k (builders.get first).name (builders.get i).name)
    | none => .ok ((k, i) :: table)
  else .ok table

/-- Goes over the list for a kind. -/
def enterAll (table : Table builders) (k : Kind) : Except RegistryError (Table builders) :=
  (List.finRange builders.length).foldlM (enter builders k) table

/-- The table of a list of builders. -/
def fill : Except RegistryError (Table builders) := Kind.all.foldlM (enterAll builders) []

/-- A table with the first claimant of each of some kinds. -/
def entries (table : Table builders) (ks : List Kind) : Table builders :=
  ks.foldl (fun table k => ((claimants builders k).head?.map (k, ·)).toList ++ table) table

variable {builders}
variable {k : Kind} {table : Table builders} {i : Fin builders.length}

theorem enter_free (h : (builders.get i).supports k = true) (hfree : table.lookup k = none) :
    enter builders k table i = .ok ((k, i) :: table) := by
  rw [enter, if_pos h, hfree]

theorem enter_taken {first : Fin builders.length} (h : (builders.get i).supports k = true)
    (htaken : table.lookup k = some first) :
    enter builders k table i =
      .error (.duplicateBuilder k (builders.get first).name (builders.get i).name) := by
  rw [enter, if_pos h, htaken]

/-- Only the claimants of a kind are entered. -/
theorem enterAll_claimants (table : Table builders) (k : Kind) :
    enterAll builders table k = (claimants builders k).foldlM (enter builders k) table := by
  rw [enterAll, claimants, List.foldlM_filter]
  congr
  funext table i
  by_cases h : (builders.get i).supports k = true
  · rw [if_pos h]
  · rw [if_neg h, enter, if_neg h]
    rfl

/-- For a kind without an entry, going over the list enters the only claimant there is, or
ends in the conflict over the kind. -/
theorem enterAll_eq (hfree : table.lookup k = none) :
    enterAll builders table k =
      (conflictAt? builders k).elim
        (.ok (((claimants builders k).head?.map (k, ·)).toList ++ table)) .error := by
  have hmem (i) (hi : i ∈ claimants builders k) : (builders.get i).supports k = true :=
    mem_claimants.mp hi
  rw [enterAll_claimants]
  rcases claimants_cases builders k with ⟨only, honly, hnone⟩ | ⟨first, second, rest, htwo, hsome⟩
  · rw [hnone, honly]
    rw [honly] at hmem
    cases only with
    | none => rfl
    | some i =>
      show (enter builders k table i >>= pure) = _
      rw [enter_free (hmem i (List.mem_cons_self ..)) hfree]
      rfl
  · obtain ⟨-, hfirst, hsecond, -⟩ := claimants_cons_cons htwo
    have htaken : List.lookup k ((k, first) :: table) = some first := List.lookup_cons_self
    rw [hsome, htwo, List.foldlM_cons, enter_free hfirst hfree]
    show (enter builders k ((k, first) :: table) second >>= _) = _
    rw [enter_taken hsecond htaken]
    rfl

theorem lookup_entry (table : Table builders) (only : Option (Fin builders.length)) (k l : Kind) :
    List.lookup l ((only.map (k, ·)).toList ++ table) =
      (if l = k then only else none).or (table.lookup l) := by
  cases only with
  | none => simp
  | some i =>
    by_cases h : l = k
    · simp [h]
    · simp [h, List.lookup_cons, beq_eq_false_iff_ne.mpr h]

theorem lookup_entries {ks : List Kind} (hnodup : ks.Nodup) (table : Table builders) (l : Kind) :
    (entries builders table ks).lookup l =
      (if l ∈ ks then (claimants builders l).head? else none).or (table.lookup l) := by
  induction ks generalizing table with
  | nil => simp [entries]
  | cons k rest ih =>
    obtain ⟨hk, hrest⟩ := List.nodup_cons.mp hnodup
    show List.lookup l (entries builders _ rest) = _
    rw [ih hrest, lookup_entry]
    by_cases h : l = k
    · subst h
      simp [hk]
    · simp [h]

/-- Filling a table for some kinds fails with the first conflict over one of them, or
gives each of them its first claimant. -/
theorem foldlM_enterAll {ks : List Kind} (hnodup : ks.Nodup)
    (hfree : ∀ k ∈ ks, table.lookup k = none) :
    ks.foldlM (enterAll builders) table =
      (ks.findSome? (conflictAt? builders)).elim (.ok (entries builders table ks)) .error := by
  induction ks generalizing table with
  | nil => rfl
  | cons k rest ih =>
    obtain ⟨hk, hrest⟩ := List.nodup_cons.mp hnodup
    obtain ⟨hfirst, hlater⟩ := List.forall_mem_cons.mp hfree
    rw [List.foldlM_cons, enterAll_eq hfirst, List.findSome?_cons]
    cases hconflict : conflictAt? builders k with
    | some e => rfl
    | none =>
      refine ih hrest fun l hl => ?_
      have hne : l ≠ k := fun h => hk (h ▸ hl)
      rw [lookup_entry, if_neg hne, hlater l hl]
      rfl

theorem fill_eq : fill builders =
    (conflict? builders).elim (.ok (entries builders [] Kind.all)) .error :=
  foldlM_enterAll Kind.nodup_all fun _ _ => rfl

theorem lookup_fill (k : Kind) :
    ((entries builders [] Kind.all).lookup k).map builders.get =
      builders.find? (·.supports k) := by
  rw [lookup_entries Kind.nodup_all, if_pos k.mem_all, ← List.head?_filter, ← map_get_claimants,
    List.head?_map]
  cases (claimants builders k).head? <;> rfl

end Table

/-! ### Registries -/

/-- What a registry makes of each kind, if these are its builders. -/
structure Registry.Dispatches (r : Registry) (builders : List Builder) : Prop where
  supports : ∀ k, r.supports k = true ↔ ∃ i, (builders.get i).supports k = true
  /-- No other entry claims a kind, and its fragments are left to the one that does. -/
  claimed : ∀ k i, (builders.get i).supports k = true →
    (∀ j, (builders.get j).supports k = true → j = i) ∧
      ∀ source v, v.Tagged k → (Context.mk r source).build v =
        (builders.get i).build k source ((Context.mk r source).partOf v)
  unclaimed : ∀ k, (∀ i, (builders.get i).supports k = false) →
    ∀ source v, v.Tagged k → (Context.mk r source).build v = .error (.unknownKind k.tag)

theorem Registry.not_contested (r : Registry) (k : Kind) : ¬ Contested r.builders k := by
  intro h
  obtain ⟨e, he⟩ := exists_conflict?_iff.mpr ⟨k, h⟩
  rw [r.unambiguous] at he
  cases he

theorem Registry.dispatches (r : Registry) : r.Dispatches r.builders where
  supports k := by
    rw [supports, Option.isSome_iff_exists]
    simp only [claimant?_eq_some, List.mem_iff_get]
    constructor
    · intro h
      obtain ⟨_, ⟨i, rfl⟩, hi⟩ := h
      exact ⟨i, hi⟩
    · intro h
      obtain ⟨i, hi⟩ := h
      exact ⟨_, ⟨i, rfl⟩, hi⟩
  claimed k i hi := by
    constructor
    · intro j hj
      rcases lt_trichotomy j i with hlt | heq | hlt
      · exact absurd ⟨j, i, hlt, hj, hi⟩ (r.not_contested k)
      · exact heq
      · exact absurd ⟨i, j, hlt, hi, hj⟩ (r.not_contested k)
    · intro source v hk
      have hclaimant := r.claimant?_eq_some.mpr ⟨List.get_mem r.builders i, hi⟩
      rw [Context.build_tagged _ hk, dispatch, hclaimant]
      rfl
  unclaimed k hno source v hk := by
    have hclaimant : r.claimant? k = none := by
      rw [Option.eq_none_iff_forall_ne_some]
      intro b hb
      obtain ⟨hmem, hclaims⟩ := r.claimant?_eq_some.mp hb
      obtain ⟨i, rfl⟩ := List.mem_iff_get.mp hmem
      rw [hno i] at hclaims
      cases hclaims
    rw [Context.build_tagged _ hk, dispatch, hclaimant]
    rfl

/-- **A list of builders is a registry unless two of its entries claim one kind.** Then the
first such kind is reported, with the first two that claim it; and a list that is
accepted leaves the fragments of every kind to its only claimant. Filling a table of
dispatch fails with the same report, or gives every kind this claimant. -/
theorem Registry.ofBuilders_exact (builders : List Builder) :
    ((∃ e, ofBuilders builders = .error e) ↔ ∃ k, Contested builders k) ∧
      (∀ e, ofBuilders builders = .error e → Conflict builders e) ∧
      (∀ r, ofBuilders builders = .ok r → r.Dispatches builders) ∧
      (∀ e, Table.fill builders = .error e ↔ ofBuilders builders = .error e) ∧
      (∀ r, ofBuilders builders = .ok r → ∃ table, Table.fill builders = .ok table ∧
        ∀ k, (table.lookup k).map builders.get = r.claimant? k) := by
  simp only [ofBuilders_eq_error, ofBuilders_eq_ok]
  refine ⟨exists_conflict?_iff, fun e => conflict_of_conflict?, ?_, fun e => ?_, ?_⟩
  · rintro r rfl
    exact r.dispatches
  · rw [Table.fill_eq]
    cases conflict? builders <;> simp
  · rintro r rfl
    refine ⟨_, ?_, Table.lookup_fill⟩
    rw [Table.fill_eq, r.unambiguous]
    rfl

-- Both kinds are contested, and `Variable` comes first among the kinds.
example :
    Table.fill [⟨"a", [.nullValue, .variable], .values⟩, ⟨"b", [.nullValue], .values⟩,
        ⟨"c", [.variable], .executable⟩] =
      .error (.duplicateBuilder .variable "a" "c") := by decide

end GraphQL
