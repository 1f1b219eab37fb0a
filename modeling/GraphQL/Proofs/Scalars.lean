import GraphQL.Proofs.Fragments
import GraphQL.Proofs.Outcomes

/-! Scalars and locations.

`Scalar.Reads` says which scalar the value of a property stands for, and
`Context.Locates` which location a fragment's tokens stand for. The readers give
exactly these (`Site.scalar_eq_ok`, `Site.location_eq_ok`). Tokens that are not
both byte offsets are no location; tokens that are, but out of order, are the one
thing about a location that is refused. -/
namespace GraphQL

/-! ### Scalars -/

/-- The scalar that the value of a property stands for. -/
inductive Scalar.Reads : (s : Scalar) → Option Json → s.Value → Prop
  | text (t : String) : Reads .text (some (.string t)) t
  | literal (t : String) : Reads .numeral (some (.string t)) t
  | number (n : Number) : Reads .numeral (some (.number n)) n.text
  | boolean (b : Bool) : Reads .boolean (some (.bool b)) b
  | flag (b : Bool) : Reads .flag (some (.bool b)) b
  | unset : Reads .flag none false
  | operation (o : Operation) : Reads .operation (some (.string o.tag)) o

/-- What is expected of a value that stands for no scalar. An operation is looked for
in a string, so a value of another type is refused for its type. -/
def Scalar.expected : Scalar → Json → String
  | .text, _ => "string"
  | .numeral, _ => "numeric literal"
  | .boolean, _ | .flag, _ => "boolean"
  | .operation, .string _ => "query, mutation or subscription"
  | .operation, _ => "string"

namespace Site

theorem text_eq_ok {site : Site} {value : Option Json} {t : String} :
    site.text value = .ok t ↔ value = some (.string t) := by
  unfold text
  rw [Outcome.bind_eq_ok]
  constructor
  · intro h
    obtain ⟨t?, ht?, ht⟩ := h
    unfold text? at ht?
    split at ht?
    · cases ht?
      cases ht
    · cases ht?
      cases ht
      rfl
    · cases ht?
  · intro h
    subst h
    exact ⟨some t, rfl, rfl⟩

theorem boolean?_eq_ok {site : Site} {value : Option Json} {b? : Option Bool} :
    site.boolean? value = .ok b? ↔ value = b?.map .bool := by
  unfold boolean?
  split
  · cases b? <;> simp
  · cases b? <;> simp
  · next v hb =>
    cases b? with
    | none => simp
    | some b => simpa using fun h : v = .bool b => hb b h

theorem boolean_eq_ok {site : Site} {value : Option Json} {b : Bool} :
    site.boolean value = .ok b ↔ value = some (.bool b) := by
  unfold boolean
  rw [Outcome.bind_eq_ok]
  constructor
  · intro h
    obtain ⟨b?, hb?, hb⟩ := h
    rw [boolean?_eq_ok.mp hb?]
    cases b? with
    | none => cases hb
    | some c =>
      cases hb
      rfl
  · intro h
    exact ⟨some b, boolean?_eq_ok.mpr h, rfl⟩

theorem flag_eq_ok {site : Site} {absent : Bool} {value : Option Json} {b : Bool} :
    site.flag absent value = .ok b ↔ value = some (.bool b) ∨ value = none ∧ absent = b := by
  unfold flag
  rw [Outcome.map_eq_ok]
  constructor
  · intro h
    obtain ⟨b?, hb?, rfl⟩ := h
    rw [boolean?_eq_ok.mp hb?]
    cases b? with
    | none => exact .inr ⟨rfl, rfl⟩
    | some c => exact .inl rfl
  · intro h
    rcases h with h | ⟨h, rfl⟩
    · exact ⟨some b, boolean?_eq_ok.mpr h, rfl⟩
    · exact ⟨none, boolean?_eq_ok.mpr h, rfl⟩

theorem numeral_eq_ok {site : Site} {value : Option Json} {t : String} :
    site.numeral value = .ok t ↔
      value = some (.string t) ∨ ∃ n : Number, value = some (.number n) ∧ n.text = t := by
  unfold numeral
  split <;> simp_all

theorem operation_eq_ok {site : Site} {value : Option Json} {o : Operation} :
    site.operation value = .ok o ↔ value = some (.string o.tag) := by
  unfold operation
  rw [Outcome.bind_eq_ok]
  constructor
  · intro h
    obtain ⟨tag, htag, ho⟩ := h
    rw [text_eq_ok.mp htag]
    cases hofTag : Operation.ofTag? tag with
    | none =>
      rw [hofTag] at ho
      cases ho
    | some p =>
      rw [hofTag] at ho
      cases ho
      rw [Operation.tag_of_ofTag? hofTag]
  · intro h
    refine ⟨o.tag, text_eq_ok.mpr h, ?_⟩
    rw [Operation.ofTag?_tag]
    rfl

theorem scalar_eq_ok {site : Site} {s : Scalar} {value : Option Json} {x : s.Value} :
    site.scalar value s = .ok x ↔ s.Reads value x := by
  cases s with
  | text =>
    refine text_eq_ok.trans ⟨fun h => h ▸ .text x, fun h => ?_⟩
    cases h
    rfl
  | numeral =>
    refine numeral_eq_ok.trans ⟨fun h => ?_, fun h => ?_⟩
    · rcases h with rfl | ⟨n, rfl, rfl⟩
      · exact .literal x
      · exact .number n
    · cases h with
      | literal => exact .inl rfl
      | number n => exact .inr ⟨n, rfl, rfl⟩
  | boolean =>
    refine boolean_eq_ok.trans ⟨fun h => h ▸ .boolean x, fun h => ?_⟩
    cases h
    rfl
  | flag =>
    refine flag_eq_ok.trans ⟨fun h => ?_, fun h => ?_⟩
    · rcases h with rfl | ⟨rfl, rfl⟩
      · exact .flag x
      · exact .unset
    · cases h with
      | flag => exact .inl rfl
      | unset => exact .inr ⟨rfl, rfl⟩
  | operation =>
    refine operation_eq_ok.trans ⟨fun h => h ▸ .operation x, fun h => ?_⟩
    cases h
    rfl

/-- Only a flag may be left out. -/
theorem scalar_none {site : Site} {s : Scalar} (h : s ≠ .flag) :
    site.scalar none s = .error site.missing := by
  cases s with
  | flag => exact absurd rfl h
  | _ => rfl

/-- A value that stands for no scalar is refused with what was expected of it. -/
theorem scalar_refused {site : Site} {s : Scalar} {v : Json} (h : ∀ x, ¬ s.Reads (some v) x) :
    site.scalar (some v) s = .error (site.invalid (s.expected v)) := by
  cases s with
  | text =>
    cases v with
    | string t => exact absurd (.text t) (h t)
    | _ => rfl
  | numeral =>
    cases v with
    | string t => exact absurd (.literal t) (h t)
    | number n => exact absurd (.number n) (h n.text)
    | _ => rfl
  | boolean =>
    cases v with
    | bool b => exact absurd (.boolean b) (h b)
    | _ => rfl
  | flag =>
    cases v with
    | bool b => exact absurd (.flag b) (h b)
    | _ => rfl
  | operation =>
    cases v with
    | string tag =>
      have htext : site.text (some (.string tag)) = .ok tag := text_eq_ok.mpr rfl
      show (site.text (some (.string tag)) >>= _) = _
      rw [htext]
      cases ho : Operation.ofTag? tag with
      | some o =>
        have htag := Operation.tag_of_ofTag? ho
        exact absurd (htag ▸ .operation o) (h o)
      | none =>
        simp only [bind, Except.bind, ho]
        rfl
    | _ => rfl

end Site

/-! ### Locations -/

/-- The tokens of a fragment's location, where both are byte offsets. -/
def Json.span? (v : Json) : Option (Nat × Nat) := do
  let location ← v.property? "loc"
  let start ← location.member? "startToken" >>= offset?
  let stop ← location.member? "endToken" >>= offset?
  return (start, stop)

/-- The tokens are looked for where a location is read. -/
theorem Json.span?_eq (v : Json) : v.span? = do
    let location ← v.property? locationProperty
    let start ← location.member? "startToken" >>= offset?
    let stop ← location.member? "endToken" >>= offset?
    return (start, stop) := rfl

/-- Where a fragment carries both tokens, they are in order. -/
def Json.Ordered (v : Json) : Prop := ∀ start stop, v.span? = some (start, stop) → start ≤ stop

def Location.bounds (l : Location) : Nat × Nat := (l.start, l.stop)

/-- The location that a fragment's tokens stand for. -/
def Context.Locates (cx : Context) (v : Json) (l : Option Location) : Prop :=
  v.span? = l.map Location.bounds ∧ ∀ x ∈ l, x.source = cx.source

theorem Json.offset?_lt {v : Json} {n : Nat} (h : v.offset? = some n) : n < offsetBound := by
  unfold offset? at h
  split at h
  · split at h
    · next hlt =>
      cases h
      exact hlt
    · cases h
  · cases h

theorem Json.span?_lt {v : Json} {start stop : Nat} (h : v.span? = some (start, stop)) :
    stop < offsetBound := by
  unfold span? at h
  obtain ⟨location, -, h⟩ := Option.bind_eq_some_iff.mp h
  obtain ⟨a, -, h⟩ := Option.bind_eq_some_iff.mp h
  obtain ⟨b, hb, h⟩ := Option.bind_eq_some_iff.mp h
  obtain ⟨v, -, hv⟩ := Option.bind_eq_some_iff.mp hb
  cases h
  exact offset?_lt hv

namespace Site

/-- A location is read from the fragment's tokens, if it has both. -/
theorem location_property? (site : Site) (source : Source) (v : Json) :
    site.location source (v.property? locationProperty) =
      match v.span? with
      | none => .ok none
      | some (start, stop) =>
        match Location.ofBounds? start stop source with
        | some l => .ok (some l)
        | none => .error (site.invalid "start <= end") := by
  unfold location
  rw [Json.span?_eq]
  simp only [Option.bind_eq_bind]
  cases v.property? locationProperty with
  | none => rfl
  | some location =>
    cases hstart : (location.member? "startToken").bind Json.offset? with
    | none => simp [hstart]
    | some start =>
      cases hstop : (location.member? "endToken").bind Json.offset? with
      | none => simp [hstart, hstop]
      | some stop =>
        simp only [Option.bind_some, hstart, hstop]
        rfl

theorem location_eq_ok {site : Site} {cx : Context} {v : Json} {l : Option Location} :
    site.location cx.source (v.property? locationProperty) = .ok l ↔ cx.Locates v l := by
  rw [location_property?, Context.Locates]
  cases hspan : v.span? with
  | none => cases l <;> simp
  | some bounds =>
    obtain ⟨start, stop⟩ := bounds
    have hlt := Json.span?_lt hspan
    by_cases hle : start ≤ stop
    · have hl : Location.ofBounds? start stop cx.source = some ⟨start, stop, cx.source, hle, hlt⟩ :=
        dif_pos ⟨hle, hlt⟩
      simp only [hl]
      cases l with
      | none => simp
      | some x =>
        obtain ⟨a, b, source, ha, hb⟩ := x
        simp [Location.bounds, and_assoc, eq_comm]
    · have hl : Location.ofBounds? start stop cx.source = none := dif_neg fun h => hle h.1
      simp only [hl]
      cases l with
      | none => simp
      | some x =>
        have := x.start_le_stop
        simp [Location.bounds]
        omega

/-- Tokens that are out of order are refused, and nothing else about a location is. -/
theorem location_eq_error {site : Site} {source : Source} {v : Json} {e : BuildError} :
    site.location source (v.property? locationProperty) = .error e ↔
      ¬ v.Ordered ∧ e = site.invalid "start <= end" := by
  rw [location_property?, Json.Ordered]
  cases hspan : v.span? with
  | none => simp
  | some bounds =>
    obtain ⟨start, stop⟩ := bounds
    have hlt := Json.span?_lt hspan
    by_cases hle : start ≤ stop
    · have hl : Location.ofBounds? start stop source = some ⟨start, stop, source, hle, hlt⟩ :=
        dif_pos ⟨hle, hlt⟩
      simp [hl, hle]
    · have hl : Location.ofBounds? start stop source = none := dif_neg fun h => hle h.1
      simp [hl, hle, eq_comm]

end Site

/-- Tokens stand for some location, or for none, unless they are out of order. -/
theorem Context.exists_locates (cx : Context) (v : Json) : (∃ l, cx.Locates v l) ↔ v.Ordered := by
  constructor
  · intro h start stop hspan
    obtain ⟨l, hl, -⟩ := h
    rw [hspan] at hl
    cases l with
    | none => cases hl
    | some x =>
      cases hl
      exact x.start_le_stop
  · intro h
    cases hspan : v.span? with
    | none => exact ⟨none, hspan, by simp⟩
    | some bounds =>
      obtain ⟨start, stop⟩ := bounds
      have hle := h start stop hspan
      have hlt := Json.span?_lt hspan
      refine ⟨some ⟨start, stop, cx.source, hle, hlt⟩, hspan, fun x hx => ?_⟩
      cases hx
      rfl

end GraphQL
