import GraphQL.Proofs.Congruence

/-! Where the locations of a tree come from.

A tree that was built has the shape of the value it was built from, so every node in it
has a fragment that stands in its place. `Tree.Throughout` says that a relation holds
between all of them; whatever holds between any value and what it builds to holds
throughout a tree that was built (`Context.throughout_build`). The document that a build
is run over is read nowhere, and ends up in the locations only
(`Context.build_over`). -/
namespace GraphQL

/-! ### Nodes and the values in their places -/

section
variable (P : Json → Node → Prop)

mutual
/-- The relation holds of every node of the tree and the value in its place: the value
at the same properties, and in sequences the item at the same index. -/
def Tree.Throughout : {k : Kind} → Tree k → Json → Prop
  | k, .node entries location, v => P v ⟨k, .node entries location⟩ ∧ entries.Throughout v
termination_by structural _ t => t

def Entries.Throughout : {slots : List Slot} → Entries slots → Json → Prop
  | _, .nil, _ => True
  | s :: _, .cons entry rest, v => entry.Throughout (v.property? s.property) ∧ rest.Throughout v
termination_by structural _ es => es

def Entry.Throughout : {shape : Shape} → Entry shape → Option Json → Prop
  | _, .scalar _, _ => True
  | _, .required _ child, some v => child.Throughout v
  | _, .absent, none => True
  | _, .present _ child, some v => child.Throughout v
  | _, .sequence children, none => children.Throughout []
  | _, .sequence children, some (.array items) => children.Throughout items
  | _, _, _ => False
termination_by structural _ e => e

def Trees.Throughout : {c : Class} → Trees c → List Json → Prop
  | _, .nil, [] => True
  | _, .cons _ child rest, v :: items => child.Throughout v ∧ rest.Throughout items
  | _, _, _ => False
termination_by structural _ ts => ts
end

end

section
variable {P : Json → Node → Prop} {Q : Location → Prop}

/-! ### What holds throughout holds of all locations -/

mutual
theorem Tree.Throughout.locations (hPQ : ∀ w m, P w m → ∀ l ∈ m.location?, Q l) :
    {k : Kind} → (t : Tree k) → {v : Json} → t.Throughout P v → ∀ l ∈ t.locations, Q l
  | k, .node entries location, v, h, l, hl => by
    rcases List.mem_append.mp hl with hl | hl
    · exact hPQ v _ h.1 l (Option.mem_toList.mp hl)
    · exact Entries.Throughout.locations hPQ entries h.2 l hl

theorem Entries.Throughout.locations (hPQ : ∀ w m, P w m → ∀ l ∈ m.location?, Q l) :
    {slots : List Slot} → (es : Entries slots) → {v : Json} → es.Throughout P v →
      ∀ l ∈ es.locations, Q l
  | _, .nil, _, _, _, hl => absurd hl List.not_mem_nil
  | s :: _, .cons entry rest, v, h, l, hl => by
    rcases List.mem_append.mp hl with hl | hl
    · exact Entry.Throughout.locations hPQ entry h.1 l hl
    · exact Entries.Throughout.locations hPQ rest h.2 l hl

theorem Entry.Throughout.locations (hPQ : ∀ w m, P w m → ∀ l ∈ m.location?, Q l) :
    {shape : Shape} → (e : Entry shape) → {value : Option Json} → e.Throughout P value →
      ∀ l ∈ e.locations, Q l
  | _, .scalar _, _, _, _, hl => absurd hl List.not_mem_nil
  | _, .required _ child, some _, h, l, hl => Tree.Throughout.locations hPQ child h l hl
  | _, .absent, _, _, _, hl => absurd hl List.not_mem_nil
  | _, .present _ child, some _, h, l, hl => Tree.Throughout.locations hPQ child h l hl
  | _, .sequence children, none, h, l, hl => Trees.Throughout.locations hPQ children h l hl
  | _, .sequence children, some (.array _), h, l, hl =>
    Trees.Throughout.locations hPQ children h l hl

theorem Trees.Throughout.locations (hPQ : ∀ w m, P w m → ∀ l ∈ m.location?, Q l) :
    {c : Class} → (ts : Trees c) → {items : List Json} → ts.Throughout P items →
      ∀ l ∈ ts.locations, Q l
  | _, .nil, _, _, _, hl => absurd hl List.not_mem_nil
  | _, .cons _ child rest, _ :: _, h, l, hl => by
    rcases List.mem_append.mp hl with hl | hl
    · exact Tree.Throughout.locations hPQ child h.1 l hl
    · exact Trees.Throughout.locations hPQ rest h.2 l hl
end

/-! ### Trees that were built -/

namespace Context

variable {cx : Context}

theorem throughout_fills {shape : Shape} {value : Option Json} {e : Entry shape}
    (h : cx.Fills value e)
    (hchild : ∀ c, Json.Stands c value → ∀ n, cx.build c = .ok n → n.tree.Throughout P c) :
    e.Throughout P value := by
  cases h with
  | scalar => exact trivial
  | required admits built => exact hchild _ .alone _ built
  | absent => exact trivial
  | present admits built => exact hchild _ .alone _ built
  | noItems => exact trivial
  | @items c items children built =>
    have hitems : ∀ v ∈ items, ∀ n, cx.build v = .ok n → n.tree.Throughout P v :=
      fun v hv => hchild v (.item hv)
    clear hchild
    show children.Throughout P items
    induction children using Trees.listInduction generalizing items with
    | nil =>
      cases built
      trivial
    | cons admits child rest ih =>
      obtain ⟨v, vs, hv, hvs, rfl⟩ := List.forall₂_cons_right_iff.mp built
      obtain ⟨hfirst, hrest⟩ := List.forall_mem_cons.mp hitems
      exact ⟨hfirst _ hv, ih hvs hrest⟩

theorem throughout_fillsAll {v : Json} {slots : List Slot} {es : Entries slots}
    (h : cx.FillsAll v es)
    (hchild : ∀ c, Json.Child c v → ∀ n, cx.build c = .ok n → n.tree.Throughout P c) :
    es.Throughout P v := by
  induction slots with
  | nil =>
    cases es
    trivial
  | cons s rest ih =>
    cases es with
    | cons e es => exact ⟨throughout_fills h.1 fun c hc => hchild c ⟨s.property, hc⟩, ih h.2⟩

/-- What holds of every value and what it builds to holds throughout a tree that was built. -/
theorem throughout_build (hP : ∀ w m, cx.build w = .ok m → P w m) (v : Json) :
    ∀ n, cx.build v = .ok n → n.tree.Throughout P v := by
  induction v using Json.childInduction with
  | step v ih =>
    intro n h
    obtain ⟨k, ⟨es, l⟩⟩ := n
    obtain ⟨-, -, hes, -⟩ := cx.build_eq_ok.mp h
    exact ⟨hP v _ h, throughout_fillsAll hes ih⟩

/-- What is built is located where its fragment's tokens say, in the document at hand. -/
theorem locates_build {v : Json} {n : Node} (h : cx.build v = .ok n) : cx.Locates v n.location? := by
  obtain ⟨k, ⟨es, l⟩⟩ := n
  exact (cx.build_eq_ok.mp h).2.2.2

end Context

end

/-! ### Two documents -/

/-- The node with all of it moved to another document. -/
def Node.over (source : Source) (n : Node) : Node := n.relocate fun l => some (l.over source)

namespace Context

/-- Over another document, a value builds to the same with its locations moved there. -/
theorem build_over (r : Registry) (s₁ s₂ : Source) (v : Json) :
    (Context.mk r s₂).build v = Node.over s₂ <$> (Context.mk r s₁).build v := by
  induction v using Json.childInduction with
  | step v ih =>
    refine build_alike (fun _ _ => rfl) (fun _ _ => Iff.rfl) rfl (fun k _ s _ => ?_) rfl
    exact alike_self _ fun c hc => ih c ⟨s.property, hc⟩

end Context

-- The document is empty, and ends long before the tokens.
example :
    (fun n => n.location?.map Location.bounds) <$> Node.ofJson (.ofBody "") (.object
      [("kind", .string "NullValue"),
        ("loc", .object [("startToken", .nat 7), ("endToken", .nat 9)])]) =
      .ok (some (7, 9)) := rfl

end GraphQL
