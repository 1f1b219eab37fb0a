import GraphQL.Proofs.Conflicts
import GraphQL.Proofs.Edits

/-! The order in which builders are registered.

Whether a kind is contested is a matter of how many builders claim it, and which contested
kind is reported is a matter of the order of the kinds. So a list and a rearrangement of
it are refused over the same kind (`refusedOver_iff`), though not always with the same two
builders. What a registry dispatches a kind to is the one builder in it that claims the
kind, wherever that stands (`claimant?_congr`), and nothing else of a registry takes part
in a build (`Context.build_of_dispatch`). -/
namespace GraphQL

variable {builders builders' : List Builder} {k : Kind}

/-! ### Lists that are refused -/

theorem contested_iff_two_le :
    Contested builders k ↔ 2 ≤ (builders.filter (·.supports k)).length := by
  rw [contested_iff, conflictAt?]
  cases builders.filter (·.supports k) with
  | nil => simp
  | cons first rest => cases rest <;> simp

theorem contested_perm (h : builders.Perm builders') :
    Contested builders k ↔ Contested builders' k := by
  rw [contested_iff_two_le, contested_iff_two_le, (h.filter _).length_eq]

theorem Kind.index_inj {j k : Kind} (h : j.index = k.index) : j = k :=
  (List.idxOf_inj j.mem_all).mp h

namespace Registry

/-- The list is refused over a kind, whichever builders are reported for it. -/
def RefusedOver (builders : List Builder) (k : Kind) : Prop :=
  ∃ first second, ofBuilders builders = .error (.duplicateBuilder k first second)

theorem refusedOver_iff : RefusedOver builders k ↔
    Contested builders k ∧ ∀ l : Kind, l.index < k.index → ¬ Contested builders l := by
  simp only [RefusedOver, ofBuilders_eq_error]
  constructor
  · intro h
    obtain ⟨_, _, h⟩ := h
    cases conflict_of_conflict? h with
    | @intro _ i j lt first second _ earlier => exact ⟨⟨i, j, lt, first, second⟩, earlier⟩
  · intro h
    obtain ⟨hk, hearlier⟩ := h
    obtain ⟨e, he⟩ := exists_conflict?_iff.mpr ⟨k, hk⟩
    cases conflict_of_conflict? he with
    | @intro j a b lt first second _ earlier =>
      have hj : Contested builders j := ⟨a, b, lt, first, second⟩
      have hle : ¬ k.index < j.index := fun hlt => earlier k hlt hk
      have hge : ¬ j.index < k.index := fun hlt => hearlier j hlt hj
      have hjk : j = k := Kind.index_inj (by omega)
      exact ⟨_, _, hjk ▸ he⟩

theorem refusedOver_perm (h : builders.Perm builders') :
    RefusedOver builders k ↔ RefusedOver builders' k := by
  simp only [refusedOver_iff, contested_perm h]

-- The kind is the same in either order, but the builders reported for it change places.
example : ofBuilders [⟨"b", [.nullValue], .values⟩, ⟨"a", [.nullValue], .values⟩] =
    .error (.duplicateBuilder .nullValue "b" "a") := rfl

theorem exists_ofBuilders_iff :
    (∃ r, ofBuilders builders = .ok r) ↔ ¬ ∃ k, RefusedOver builders k := by
  unfold RefusedOver
  cases ofBuilders builders with
  | ok r => simp
  | error e =>
    obtain ⟨k, first, second⟩ := e
    simp

/-! ### Registries of the same builders -/

/-- A registry dispatches by which builders it has, not by where they stand. -/
theorem claimant?_congr {r r' : Registry} (h : ∀ b, b ∈ r'.builders ↔ b ∈ r.builders) (k : Kind) :
    r'.claimant? k = r.claimant? k := by
  apply Option.ext
  intro b
  rw [claimant?_eq_some, claimant?_eq_some, h]

end Registry

/-- Of a registry, only what it dispatches to takes part in a build. -/
theorem Context.build_of_dispatch {r r' : Registry} (h : ∀ k, r'.dispatch k = r.dispatch k)
    (source : Source) (v : Json) :
    (Context.mk r' source).build v = (Context.mk r source).build v := by
  have hserves (k : Kind) : (Context.mk r source).Serves k ↔ (Context.mk r' source).Serves k := by
    simp only [Serves, h]
  have hf (l : Location) (hl : l.source = source) : some l = some (l.over source) := hl ▸ rfl
  induction v using Json.childInduction with
  | step v ih =>
    have hslots (k : Kind) (s : Slot) : (Context.mk r source).Alike (Context.mk r' source) some
        s.shape (v.property? s.property) (v.property? s.property) :=
      alike_self _ fun c hc => (ih c ⟨s.property, hc⟩).trans (relocate_some_build c).symm
    have hbuild := build_alike hf (fun k _ => hserves k) rfl (fun k _ s _ => hslots k s) rfl
    exact hbuild.trans (relocate_some_build v)

/-- A table that has been filled leads every kind to the builder it is dispatched to. -/
theorem Table.exists_fill (r : Registry) : ∃ table, fill r.builders = .ok table ∧
    ∀ k, (table.lookup k).map r.builders.get = r.claimant? k := by
  refine ⟨_, ?_, lookup_fill⟩
  rw [fill_eq, r.unambiguous]
  rfl

/-- **The order of registration does not matter.** A list of builders and a rearrangement
of it are both accepted or both refused, and refused over the same kind. When they are
accepted, their tables lead every kind to the same builder, whatever its index is in
either list; so the two registries support the same kinds and build every value over
every document to the same. -/
theorem Registry.ofBuilders_perm (h : builders.Perm builders') :
    (∀ k, RefusedOver builders k ↔ RefusedOver builders' k) ∧
      ((∃ r, ofBuilders builders = .ok r) ↔ ∃ r', ofBuilders builders' = .ok r') ∧
      ∀ r r', ofBuilders builders = .ok r → ofBuilders builders' = .ok r' →
        (∃ table table', Table.fill builders = .ok table ∧ Table.fill builders' = .ok table' ∧
          ∀ k, (table'.lookup k).map builders'.get = (table.lookup k).map builders.get) ∧
        (∀ k, r'.supports k = r.supports k) ∧
        ∀ source v, (Context.mk r' source).build v = (Context.mk r source).build v := by
  have hrefused (k : Kind) : RefusedOver builders k ↔ RefusedOver builders' k := refusedOver_perm h
  refine ⟨hrefused, ?_, ?_⟩
  · rw [exists_ofBuilders_iff, exists_ofBuilders_iff]
    simp only [hrefused]
  · simp only [ofBuilders_eq_ok]
    rintro r r' rfl rfl
    have hclaimant := claimant?_congr fun b => h.symm.mem_iff (a := b)
    refine ⟨?_, fun k => ?_, Context.build_of_dispatch fun k => ?_⟩
    · obtain ⟨table, hfill, hlookup⟩ := Table.exists_fill r
      obtain ⟨table', hfill', hlookup'⟩ := Table.exists_fill r'
      exact ⟨table, table', hfill, hfill', fun k => by rw [hlookup, hlookup', hclaimant]⟩
    · rw [supports, supports, hclaimant]
    · rw [dispatch, dispatch, hclaimant]

/-- Two builders that claim null values around one for lists, and what is left of them
without the last. -/
theorem Registry.ofBuilders_perm_threeClaims :
    let a : Builder := ⟨"a", [.nullValue, .variable], .values⟩
    let b : Builder := ⟨"b", [.listValue], .values⟩
    let c : Builder := ⟨"c", [.nullValue], .typeSystem⟩
    let r : Registry := ⟨[a, b], by decide⟩
    let r' : Registry := ⟨[b, a], by decide⟩
    [a, b, c].Perm [c, b, a] ∧ RefusedOver [a, b, c] .nullValue ∧
      RefusedOver [c, b, a] .nullValue ∧ [a, b].Perm [b, a] ∧
      ∀ source v, (Context.mk r' source).build v = (Context.mk r source).build v := by
  intro a b c r r'
  have hthree : [a, b, c].Perm [c, b, a] := by decide
  have hrefused : RefusedOver [a, b, c] .nullValue := ⟨"a", "c", rfl⟩
  have htwo : [a, b].Perm [b, a] := by decide
  have hr : ofBuilders [a, b] = .ok r := ofBuilders_eq_ok.mpr rfl
  have hr' : ofBuilders [b, a] = .ok r' := ofBuilders_eq_ok.mpr rfl
  exact ⟨hthree, hrefused, ((ofBuilders_perm hthree).1 _).mp hrefused, htwo,
    ((ofBuilders_perm htwo).2.2 r r' hr hr').2.2⟩

end GraphQL
