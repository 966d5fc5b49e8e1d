import CodeMetrics.Log
import CodeMetrics.Syntax.Graph

/-!
# Loading trees from documents

Every object with a text under `type` is a node. Its typed members become child slots, lists with typed members (and
empty lists) become lists of those members, a null under a few keys is an empty slot, and all the rest is kept as
attributes; some keys only keep books and are skipped.

Loading goes without recursion on the document. The nodes made so far stand in a `Graph`, with their child slots empty
at first; the children that have been seen and not yet made wait on a stack, each with the slot that it is to fill. The
last child is taken first, so a malformed node is reported before those that stand in front of it. A node's number
is its place in the order in which nodes were made.

## Termination

The documents on the stack are together smaller with every step: a node's children weigh less than the node.
-/

namespace CodeMetrics

/-- One step from an object or a list into its parts. -/
inductive Step where
  | key (name : String)
  | index (i : Nat)
  deriving DecidableEq, Repr

def Step.text : Step → String
  | key name => "." ++ name
  | index i => "[" ++ Number.natText i ++ "]"

/-- The way from the document to one of its objects, last step first. -/
abbrev Place := List Step

/-- A place as text, from the root `$` on. -/
def Place.text (place : Place) : String := place.reverse.foldl (fun acc step => acc ++ step.text) "$"

namespace Loader

/-- The keys of a node that are never looked into. -/
def bookkeeping : List String := ["type", "loc", "range", "parent", "tokens", "comments"]

/-- The keys under which null is an empty child slot. -/
def optionalSlots : List String := ["body", "superClass", "test", "id"]

/-- The type tag of an object that is a node. -/
def tag? (v : Value) : Option String := (v.field? "type").bind Value.str?

def isNode (v : Value) : Bool := (tag? v).isSome

/-- A list that holds child nodes: one with a node in it, or an empty one. -/
def isNodeList (items : List Value) : Bool := items.isEmpty || items.any isNode

/-- Whether a member of a node is a child slot; otherwise it is an attribute. -/
def isSlot (key : String) (v : Value) : Bool :=
  match v with
  | .object _ => isNode v
  | .list items => isNodeList items
  | .null => optionalSlots.contains key
  | _ => false

def malformed {α : Type} (fault : TreeFault) (place : Place) : Except Error α :=
  .error (.problem (.treeFormat fault place.text))

/-- A line number, which may be given as a truth value. -/
def line? : Value → Option Num
  | .int n => some (.int n)
  | .bool b => some (.flag b)
  | _ => none

/-- The line under `start` or `stop` of a location. -/
def locLine (loc : Value) (side : String) : Option Value := (loc.field? side).bind fun v => v.field? "line"

/-- The range of lines that a node's `loc` gives. -/
def spanOf (node : Value) (place : Place) : Except Error (Option Span) :=
  match node.field? "loc" with
  | none | some .null => .ok none
  | some loc =>
    match locLine loc "start", locLine loc "end" with
    | some start, some stop =>
      match line? start, line? stop with
      | some start, some stop =>
        match Span.of? start stop with
        | some span => .ok (some span)
        | none => malformed (.invalidSpan start stop) place
      | _, _ => malformed .lineNotInteger place
    | _, _ => malformed .incompleteLocation place

/-- The members of a node that are attributes. -/
def attributes (fields : List (String × Value)) : List (String × Value) :=
  fields.filter fun (key, v) => !bookkeeping.contains key && !isSlot key v

/-- A node without a tag of its own takes its kind's. -/
def displayTag (tag : String) : String := if tag = "" then (Kind.ofTag tag).tag else tag

/-! ## Nodes without their children -/

/-- The slot of a member, with nothing in it yet. -/
def emptySlot? (key : String) (v : Value) : Option (Slot Nat) :=
  if bookkeeping.contains key || !isSlot key v then none
  else
    match v with
    | .list items => some (.many ((items.filter isNode).map fun _ => none))
    | _ => some .absent

/-- The child slots of a node, with nothing in them yet. -/
def emptySlots (fields : List (String × Value)) : List (String × Slot Nat) :=
  fields.filterMap fun (key, v) => (emptySlot? key v).map fun slot => (key, slot)

/-- A child that has been seen and not yet made: its document and place, and the slot of its owner that it is to fill,
at an index if the slot holds a list. -/
structure Pending where
  document : Value
  place : Place
  owner : Nat
  key : String
  index : Option Nat

/-- The children in a list. Only nodes are counted. -/
def pendingItems (place : Place) (owner : Nat) (key : String) : Nat → List Value → List Pending
  | _, [] => []
  | i, v :: rest =>
    if isNode v then ⟨v, .index i :: place, owner, key, some i⟩ :: pendingItems place owner key (i + 1) rest
    else pendingItems place owner key i rest

/-- The children in a member of a node. -/
def pendingOf (place : Place) (owner : Nat) (key : String) (v : Value) : List Pending :=
  if bookkeeping.contains key || !isSlot key v then []
  else
    match v with
    | .list items => pendingItems (.key key :: place) owner key 0 items
    | .null => []
    | v => [⟨v, .key key :: place, owner, key, none⟩]

/-- The children of a node, in document order. -/
def pendingChildren (place : Place) (owner : Nat) : List (String × Value) → List Pending
  | [] => []
  | (key, v) :: rest => pendingOf place owner key v ++ pendingChildren place owner rest

/-- The node at a position that an object describes, without its children, and the children. -/
def expand (place : Place) (position : Nat) : Value → Except Error (GraphNode × List Pending)
  | .object fields =>
    match tag? (.object fields) with
    | none => malformed .missingType place
    | some tag => do
      let span ← spanOf (.object fields) place
      let record : GraphNode :=
        { kind := Kind.ofTag tag, tag := displayTag tag, span, fields := emptySlots fields, attrs := attributes fields }
      return (record, pendingChildren place position fields)
  | v => malformed (.notAnObject v.kindName) place

/-! ## The stack -/

/-- How much of the document is on a stack. -/
noncomputable def weight : List Pending → Nat
  | [] => 0
  | p :: rest => sizeOf p.document + weight rest

theorem weight_append (a b : List Pending) : weight (a ++ b) = weight a + weight b := by
  induction a with
  | nil => simp [weight]
  | cons p rest ih =>
    simp only [List.cons_append, weight, ih]
    omega

theorem weight_reverse (a : List Pending) : weight a.reverse = weight a := by
  induction a with
  | nil => rfl
  | cons p rest ih =>
    simp only [List.reverse_cons, weight_append, weight, ih]
    omega

theorem weight_pendingItems_le (place : Place) (owner : Nat) (key : String) :
    ∀ (i : Nat) (items : List Value), weight (pendingItems place owner key i items) ≤ sizeOf items
  | _, [] => by simp [pendingItems, weight]
  | i, v :: rest => by
    rw [pendingItems]
    split
    · have := weight_pendingItems_le place owner key (i + 1) rest
      simp only [weight, List.cons.sizeOf_spec]
      omega
    · have := weight_pendingItems_le place owner key i rest
      simp only [List.cons.sizeOf_spec]
      omega

theorem weight_pendingOf_le (place : Place) (owner : Nat) (key : String) (v : Value) :
    weight (pendingOf place owner key v) ≤ sizeOf v := by
  unfold pendingOf
  split
  · exact Nat.zero_le _
  · split
    · next items _ =>
      have := weight_pendingItems_le (.key key :: place) owner key 0 items
      simp only [Value.list.sizeOf_spec]
      omega
    · exact Nat.zero_le _
    · simp [weight]

theorem weight_pendingChildren_le (place : Place) (owner : Nat) :
    ∀ fields : List (String × Value), weight (pendingChildren place owner fields) ≤ sizeOf fields
  | [] => by simp [pendingChildren, weight]
  | (key, v) :: rest => by
    have := weight_pendingOf_le place owner key v
    have := weight_pendingChildren_le place owner rest
    simp only [pendingChildren, weight_append, List.cons.sizeOf_spec, Prod.mk.sizeOf_spec]
    omega

/-- The children of a node are smaller than the node. -/
theorem weight_expand_lt {place : Place} {position : Nat} {document : Value} {record : GraphNode}
    {children : List Pending} (h : expand place position document = .ok (record, children)) :
    weight children < sizeOf document := by
  unfold expand at h
  split at h
  · next fields =>
    have hle := weight_pendingChildren_le place position fields
    split at h
    · simp [malformed] at h
    · cases hspan : spanOf (.object fields) place with
      | error e => simp [hspan, bind, Except.bind] at h
      | ok span =>
        simp only [hspan, bind, Except.bind, pure, Except.pure, Except.ok.injEq, Prod.mk.injEq] at h
        rw [← h.2, Value.object.sizeOf_spec]
        omega
  · simp [malformed] at h

/-- Slots with the node at a position put where it belongs. -/
def fill (key : String) (index : Option Nat) (position : Nat) (slots : List (String × Slot Nat)) :
    List (String × Slot Nat) :=
  match index, Fields.get? slots key with
  | none, _ => Fields.insert slots key (.one position)
  | some i, some (.many items) => Fields.insert slots key (.many (items.set i (some position)))
  | some _, _ => slots

/-- The nodes made so far, and how many they are. -/
structure Progress where
  graph : Graph
  count : Nat

/-- Adds a node and puts it into the slot that waits for it. -/
def Progress.add (state : Progress) (p : Pending) (record : GraphNode) : Progress :=
  let position := state.graph.nodes.size
  let graph : Graph := ⟨state.graph.nodes.push record⟩
  { graph := graph.update p.owner fun owner => { owner with fields := fill p.key p.index position owner.fields }
    count := state.count + 1 }

/-- Makes the nodes that wait on a stack, and all below them. -/
def run (state : Progress) : List Pending → Except Error Progress
  | [] => .ok state
  | p :: rest =>
    match _h : expand p.place state.graph.nodes.size p.document with
    | .error e => .error e
    | .ok (record, children) => run (state.add p record) (children.reverse ++ rest)
termination_by stack => weight stack
decreasing_by
  have := weight_expand_lt _h
  simp only [weight_append, weight_reverse, weight]
  omega

/-- Makes all nodes of a document, the root first. -/
def build (document : Value) : Except Error Progress := do
  let (root, children) ← expand [] 0 document
  run ⟨⟨#[root]⟩, 1⟩ children.reverse

/-- The tree of the nodes that were made. -/
def Progress.root (state : Progress) : Except Error Node :=
  match state.graph.node? 0 with
  | some root => .ok root
  | none => .error .absentNode

end Loader

namespace Node

/-- The tree that a document describes. -/
def ofDocument (document : Value) : Except Error Node := do
  let state ← Loader.build document
  state.root

/-- The tree that a document describes, with a record of its size. -/
def load (document : Value) : Traced Node := do
  let state ← Traced.lift (Loader.build document)
  let root ← Traced.lift state.root
  Traced.note .debug "qualytics.estree"
    ("Loaded " ++ Number.natText state.count ++ " nodes (root " ++ root.tag ++ ")")
  return root

end Node

end CodeMetrics
