import GraphQL.Node

/-! Equality of nodes can be decided.

`same` compares trees of any two kinds, so that children, whose kinds are only
known when the program runs, can be compared without knowing that they agree.
Locations are equal when their bounds are and their documents have the same body
and name. -/
namespace GraphQL

namespace Scalar

def same : {a b : Scalar} → a.Value → b.Value → Bool
  | .text, .text, (v : String), (w : String) => v == w
  | .numeral, .numeral, (v : String), (w : String) => v == w
  | .boolean, .boolean, (v : Bool), (w : Bool) => v == w
  | .flag, .flag, (v : Bool), (w : Bool) => v == w
  | .operation, .operation, (v : Operation), (w : Operation) => v == w
  | _, _, _, _ => false

theorem eq_of_same : {a : Scalar} → {v w : a.Value} → same v w = true → v = w
  | .text, _, _, h | .numeral, _, _, h => eq_of_beq (α := String) h
  | .boolean, _, _, h | .flag, _, _, h => eq_of_beq (α := Bool) h
  | .operation, _, _, h => eq_of_beq (α := Operation) h

theorem same_self : {a : Scalar} → (v : a.Value) → same v v = true
  | .text, v | .numeral, v => beq_self_eq_true (α := String) v
  | .boolean, v | .flag, v => beq_self_eq_true (α := Bool) v
  | .operation, v => beq_self_eq_true (α := Operation) v

end Scalar

mutual
def Tree.same : {j k : Kind} → Tree j → Tree k → Bool
  | j, k, .node as l, .node bs m => decide (j = k) && (as.same bs && decide (l = m))
termination_by structural _ _ t => t

def Entries.same : {ss ts : List Slot} → Entries ss → Entries ts → Bool
  | _, _, .nil, .nil => true
  | _, _, .cons a as, .cons b bs => a.same b && as.same bs
  | _, _, _, _ => false
termination_by structural _ _ es => es

def Entry.same : {s t : Shape} → Entry s → Entry t → Bool
  | _, _, .scalar v, .scalar w => Scalar.same v w
  | _, _, .required _ t, .required _ u => t.same u
  | _, _, .absent, .absent => true
  | _, _, .present _ t, .present _ u => t.same u
  | _, _, .sequence ts, .sequence us => ts.same us
  | _, _, _, _ => false
termination_by structural _ _ e => e

def Trees.same : {c d : Class} → Trees c → Trees d → Bool
  | _, _, .nil, .nil => true
  | _, _, .cons _ t ts, .cons _ u us => t.same u && ts.same us
  | _, _, _, _ => false
termination_by structural _ _ ts => ts
end

theorem Tree.kind_eq_of_same {j k : Kind} (t : Tree j) (u : Tree k) (h : t.same u = true) :
    j = k := by
  cases t
  cases u
  simp only [Tree.same, Bool.and_eq_true, decide_eq_true_eq] at h
  exact h.1

mutual
theorem Tree.eq_of_same : {k : Kind} → (t u : Tree k) → t.same u = true → t = u
  | _, .node as _, .node bs _, h => by
    simp only [Tree.same, Bool.and_eq_true, decide_eq_true_eq] at h
    rw [Entries.eq_of_same as bs h.2.1, h.2.2]

theorem Entries.eq_of_same : {ss : List Slot} → (as bs : Entries ss) → as.same bs = true →
    as = bs
  | _, .nil, .nil, _ => rfl
  | _, .cons a as, .cons b bs, h => by
    simp only [Entries.same, Bool.and_eq_true] at h
    rw [Entry.eq_of_same a b h.1, Entries.eq_of_same as bs h.2]

theorem Entry.eq_of_same : {s : Shape} → (a b : Entry s) → a.same b = true → a = b
  | _, .scalar v, .scalar w, h => by
    simp only [Entry.same] at h
    rw [Scalar.eq_of_same h]
  | _, .required _ t, .required _ u, h => by
    simp only [Entry.same] at h
    have hk := Tree.kind_eq_of_same t u h
    subst hk
    rw [Tree.eq_of_same t u h]
  | _, .absent, .absent, _ => rfl
  | _, .present _ t, .present _ u, h => by
    simp only [Entry.same] at h
    have hk := Tree.kind_eq_of_same t u h
    subst hk
    rw [Tree.eq_of_same t u h]
  | _, .absent, .present _ _, h => by simp [Entry.same] at h
  | _, .present _ _, .absent, h => by simp [Entry.same] at h
  | _, .sequence ts, .sequence us, h => by
    simp only [Entry.same] at h
    rw [Trees.eq_of_same ts us h]

theorem Trees.eq_of_same : {c : Class} → (ts us : Trees c) → ts.same us = true → ts = us
  | _, .nil, .nil, _ => rfl
  | _, .cons _ t ts, .cons _ u us, h => by
    simp only [Trees.same, Bool.and_eq_true] at h
    have hk := Tree.kind_eq_of_same t u h.1
    subst hk
    rw [Tree.eq_of_same t u h.1, Trees.eq_of_same ts us h.2]
  | _, .nil, .cons _ _ _, h => by simp [Trees.same] at h
  | _, .cons _ _ _, .nil, h => by simp [Trees.same] at h
end

mutual
theorem Tree.same_self : {k : Kind} → (t : Tree k) → t.same t = true
  | _, .node es _ => by simp [Tree.same, Entries.same_self es]

theorem Entries.same_self : {ss : List Slot} → (es : Entries ss) → es.same es = true
  | _, .nil => by simp [Entries.same]
  | _, .cons e es => by simp [Entries.same, Entry.same_self e, Entries.same_self es]

theorem Entry.same_self : {s : Shape} → (e : Entry s) → e.same e = true
  | _, .scalar v => by simp [Entry.same, Scalar.same_self v]
  | _, .required _ t => by simp [Entry.same, Tree.same_self t]
  | _, .absent => by simp [Entry.same]
  | _, .present _ t => by simp [Entry.same, Tree.same_self t]
  | _, .sequence ts => by simp [Entry.same, Trees.same_self ts]

theorem Trees.same_self : {c : Class} → (ts : Trees c) → ts.same ts = true
  | _, .nil => by simp [Trees.same]
  | _, .cons _ t ts => by simp [Trees.same, Tree.same_self t, Trees.same_self ts]
end

instance {k : Kind} : DecidableEq (Tree k) := fun t u =>
  if h : t.same u = true then isTrue (Tree.eq_of_same t u h)
  else isFalse fun e => h (e ▸ t.same_self)

theorem Node.eq_of_same : (n m : Node) → n.tree.same m.tree = true → n = m
  | ⟨j, t⟩, ⟨k, u⟩, h => by
    have hk : j = k := Tree.kind_eq_of_same t u h
    subst hk
    rw [Tree.eq_of_same t u h]

instance : DecidableEq Node := fun n m =>
  if h : n.tree.same m.tree = true then isTrue (Node.eq_of_same n m h)
  else isFalse fun e => h (e ▸ n.tree.same_self)

end GraphQL
