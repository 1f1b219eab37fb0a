import GraphQL.Build.Fragment
import GraphQL.Build.Registry
import GraphQL.Node

/-! Building nodes from fragments.

A fragment is built by reading the slots of an arm in order, then its location;
the first fault is the result. Children are built before the fragment that holds
them: a `Part` is a value together with what it builds to, and reading a slot only
chooses among the parts of the fragment. So what a fragment builds to depends on a
child only through what the child builds to, and `Context.part` is a plain
recursion over the JSON value. -/
namespace GraphQL

/-- A value, the node it builds to, and if it is an array the nodes its items
build to. -/
structure Part where
  value : Json
  node : Except BuildError Node
  nodes : Option (List (Except BuildError Node))

/-! ### Reading children -/

namespace Site

/-- The child, if there is one. -/
def child? (_ : Site) : Option Part → Except BuildError (Option Node)
  | none => .ok none
  | some p => some <$> p.node

def child (s : Site) (p : Option Part) : Except BuildError Node := s.child? p >>= s.require

/-- The children in order, all of which have to build. -/
def children (s : Site) : Option Part → Except BuildError (List Node)
  | none => .ok []
  | some p =>
    match p.nodes with
    | some results => results.mapM id
    | none => .error (s.invalid "array of fragments")

/-- The node, if the class admits its kind. -/
def accept (s : Site) : (c : Class) → Node → Except BuildError (Node.Of c)
  | .any, n => .ok ⟨n, trivial⟩
  | .only k, n =>
    if h : n.kind = k then .ok ⟨n, h⟩ else .error (.unexpectedKind s.kind s.property k n.kind)

def childOf? (s : Site) (c : Class) (p : Option Part) : Except BuildError (Option (Node.Of c)) := do
  match ← s.child? p with
  | none => return none
  | some n => some <$> s.accept c n

def childOf (s : Site) (c : Class) (p : Option Part) : Except BuildError (Node.Of c) :=
  s.childOf? c p >>= s.require

/-- The children in order. All of them are built before the kind of any is looked at. -/
def childrenOf (s : Site) (c : Class) (p : Option Part) : Except BuildError (List (Node.Of c)) :=
  s.children p >>= fun nodes => nodes.mapM (s.accept c)

/-- What a slot of some shape holds. -/
def entry (s : Site) (p : Option Part) : (shape : Shape) → Except BuildError (Entry shape)
  | .scalar c => Entry.scalar <$> s.scalar (p.map (·.value)) c
  | .required c => Entry.ofChild <$> s.childOf c p
  | .optional c => Entry.ofChild? <$> s.childOf? c p
  | .sequence c => (fun nodes => Entry.sequence (.ofList nodes)) <$> s.childrenOf c p

end Site

/-! ### Reading an arm -/

/-- The entries of some slots of kind `k`, given the part at each property. -/
def Entries.read (k : Kind) (part? : String → Option Part) :
    (slots : List Slot) → Except BuildError (Entries slots)
  | [] => .ok .nil
  | s :: rest => do
    let entry ← Site.entry ⟨k, s.property⟩ (part? s.property) s.shape
    return .cons entry (← read k part? rest)

/-- The entries of some slots as those of others of the same shapes. -/
def Entries.relabel : {slots slots' : List Slot} →
    slots.map (·.shape) = slots'.map (·.shape) → Entries slots → Entries slots'
  | [], [], _, .nil => .nil
  | s :: _, t :: _, h, .cons entry rest =>
    have hshape : s.shape = t.shape := (List.cons.inj h).1
    .cons (hshape ▸ entry) (rest.relabel (List.cons.inj h).2)

/-- A tree of the arm's kind: the arm's slots in order, and last the location. -/
def Arm.read {k : Kind} (arm : Arm k) (source : Source) (part? : String → Option Part) :
    Except BuildError (Tree k) := do
  let entries ← Entries.read k part? arm.slots
  let location ← Site.location ⟨k, locationProperty⟩ source
    ((part? locationProperty).map (·.value))
  return .node (entries.relabel arm.fits) location

/-- Builds a kind that the builder has an arm for and refuses every other. -/
def Builder.build (b : Builder) (k : Kind) (source : Source) (part? : String → Option Part) :
    Except BuildError Node :=
  match b.area.arm? k with
  | some arm => Node.mk k <$> arm.read source part?
  | none => .error (.unknownKind k.tag)

/-- The builder a kind is dispatched to. -/
def Registry.dispatch (r : Registry) (k : Kind) : Except BuildError Builder :=
  match r.claimant? k with
  | some b => .ok b
  | none => .error (.unknownKind k.tag)

/-! ### Building -/

/-- What a build is run with: the registry, and the document that locations refer to. -/
structure Context where
  registry : Registry
  source : Source

/-- The part at a property; null counts as none. -/
def partAt? (parts : List (String × Part)) (property : String) : Option Part :=
  match parts.lookup property with
  | some ⟨.null, _, _⟩ => none
  | part => part

namespace Context

/-- Builds an object, given its members and their parts. -/
def assemble (cx : Context) (members : List (String × Json)) (parts : List (String × Part)) :
    Except BuildError Node := do
  let k ← Fragment.kindOf members
  let b ← cx.registry.dispatch k
  b.build k cx.source (partAt? parts)

mutual
/-- A value with what it builds to. -/
def part (cx : Context) : Json → Part
  | .object members => ⟨.object members, cx.assemble members (cx.parts members), none⟩
  | .array items => ⟨.array items, .error .malformedFragment, some (cx.results items)⟩
  | v => ⟨v, .error .malformedFragment, none⟩
termination_by structural v => v

/-- What the items of an array build to. -/
def results (cx : Context) : List Json → List (Except BuildError Node)
  | [] => []
  | v :: rest => (cx.part v).node :: cx.results rest
termination_by structural items => items

/-- The members of an object as parts. -/
def parts (cx : Context) : List (String × Json) → List (String × Part)
  | [] => []
  | (property, v) :: rest => (property, cx.part v) :: cx.parts rest
termination_by structural members => members
end

/-- What a value builds to. -/
def build (cx : Context) (v : Json) : Except BuildError Node := (cx.part v).node

/-! ### Reading single properties of a fragment -/

def part? (cx : Context) (f : Fragment) (property : String) : Option Part :=
  (f.get? property).map cx.part

def child? (cx : Context) (f : Fragment) (property : String) : Except BuildError (Option Node) :=
  (f.site property).child? (cx.part? f property)

def child (cx : Context) (f : Fragment) (property : String) : Except BuildError Node :=
  (f.site property).child (cx.part? f property)

def children (cx : Context) (f : Fragment) (property : String) : Except BuildError (List Node) :=
  (f.site property).children (cx.part? f property)

/-- The child, if there is one, which has to have kind `k`. -/
def childOf? (cx : Context) (k : Kind) (f : Fragment) (property : String) :
    Except BuildError (Option (Tree k)) :=
  (fun child => child.map Node.Of.tree) <$>
    (f.site property).childOf? (.only k) (cx.part? f property)

def childOf (cx : Context) (k : Kind) (f : Fragment) (property : String) :
    Except BuildError (Tree k) :=
  Node.Of.tree <$> (f.site property).childOf (.only k) (cx.part? f property)

def childrenOf (cx : Context) (k : Kind) (f : Fragment) (property : String) :
    Except BuildError (List (Tree k)) :=
  (fun nodes => nodes.map Node.Of.tree) <$>
    (f.site property).childrenOf (.only k) (cx.part? f property)

def location (cx : Context) (f : Fragment) : Except BuildError (Option Location) :=
  (f.site locationProperty).location cx.source (f.get? locationProperty)

/-! ### Parts and what they were made from -/

theorem part_value (cx : Context) (v : Json) : (cx.part v).value = v := by cases v <;> rfl

theorem results_eq_map (cx : Context) (items : List Json) :
    cx.results items = items.map cx.build := by
  induction items with
  | nil => rfl
  | cons v rest ih => rw [results, ih]; rfl

theorem lookup_parts (cx : Context) (members : List (String × Json)) (property : String) :
    (cx.parts members).lookup property = (members.lookup property).map cx.part := by
  induction members with
  | nil => rfl
  | cons m rest ih =>
    obtain ⟨key, v⟩ := m
    rw [parts, List.lookup_cons, List.lookup_cons, ih]
    split <;> rfl

/-- Reading an object's parts is reading its members and building what is found. -/
theorem partAt?_parts (cx : Context) (f : Fragment) (property : String) :
    partAt? (cx.parts f.members) property = cx.part? f property := by
  unfold partAt? part? Fragment.get?
  rw [lookup_parts]
  cases f.members.lookup property with
  | none => rfl
  | some v => cases v <;> rfl

/-- Building a value: its kind is read, its builder found, and the builder reads
the fragment's own properties. -/
theorem build_eq (cx : Context) (v : Json) :
    cx.build v =
      (Fragment.ofJson v).bind fun f =>
        (cx.registry.dispatch f.kind).bind fun b => b.build f.kind cx.source (cx.part? f) := by
  cases v with
  | object members =>
    show cx.assemble members (cx.parts members) =
      ((Fragment.mk · members) <$> Fragment.kindOf members).bind _
    unfold assemble
    cases Fragment.kindOf members with
    | error e => rfl
    | ok k =>
      have h : partAt? (cx.parts members) = cx.part? ⟨k, members⟩ :=
        funext fun property => cx.partAt?_parts ⟨k, members⟩ property
      rw [h]
      rfl
  | _ => rfl

end Context

/-- Builds a node over a document, with the standard builders. -/
def Node.ofJson (source : Source) (v : Json) : Except BuildError Node :=
  (Context.mk .standard source).build v

end GraphQL
