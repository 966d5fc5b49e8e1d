import CodeMetrics.Proofs.Loading.Keys
import CodeMetrics.Proofs.Loading.Making
import CodeMetrics.Syntax.Loader

/-!
# Loading by recursion

`Loader.convert` turns a document into a tree by recursion on the document, with nodes that have no numbers yet. The
loader's loop does the same with a graph and a stack. What links the two is `run_pending`: with one child on top of
the stack, the loop converts the child, puts the records of its tree behind those that are there, in the order of
`Node.making`, and the child's position into the slot that waits for it; then it goes on with the rest of the stack.

* `run_pending`, `run_members`, `run_items` — a child, the members of a node, the items of a list
* `ofDocument_eq` — the loop loads what the recursion converts, numbered in the order of making
* `load_eq` — and notes how many nodes it has
-/

namespace CodeMetrics

namespace Loader

mutual

/-- The node that an object describes. -/
def convert (place : Place) : Value → Except Error Node
  | .object fields =>
    match tag? (.object fields) with
    | none => malformed .missingType place
    | some tag => do
      let span ← spanOf (.object fields) place
      let slots ← convertMembers place fields
      return {
        id := 0, kind := Kind.ofTag tag, tag := displayTag tag, span, fields := slots, attrs := attributes fields }
  | v => malformed (.notAnObject v.kindName) place

/-- The child slots among the members of a node, later members looked at first. -/
def convertMembers (place : Place) : List (String × Value) → Except Error (List (String × Slot Node))
  | [] => .ok []
  | (key, v) :: rest => do
    let later ← convertMembers place rest
    if bookkeeping.contains key || !isSlot key v then return later
    else
      match v with
      | .list items =>
        let nodes ← convertItems (.key key :: place) 0 items
        return (key, .many (nodes.map some)) :: later
      | .null => return (key, .absent) :: later
      | v =>
        let child ← convert (.key key :: place) v
        return (key, .one child) :: later

/-- The nodes of a list, later items looked at first. Only nodes are counted. -/
def convertItems (place : Place) (index : Nat) : List Value → Except Error (List Node)
  | [] => .ok []
  | v :: rest =>
    if isNode v then do
      let later ← convertItems place (index + 1) rest
      let first ← convert (.index index :: place) v
      return first :: later
    else convertItems place index rest

end

/-- The child slot that a member is, if it is one. -/
def convertSlot (place : Place) (key : String) (v : Value) : Except Error (Option (Slot Node)) :=
  if bookkeeping.contains key || !isSlot key v then .ok none
  else
    match v with
    | .list items => do
      let nodes ← convertItems (.key key :: place) 0 items
      return some (.many (nodes.map some))
    | .null => .ok (some .absent)
    | v => do
      let child ← convert (.key key :: place) v
      return some (.one child)

theorem convertMembers_cons (place : Place) (key : String) (v : Value) (rest : List (String × Value)) :
    convertMembers place ((key, v) :: rest)
      = convertMembers place rest >>= fun later => convertSlot place key v >>= fun slot =>
        .ok ((slot.map fun slot => (key, slot)).toList ++ later) := by
  rw [convertMembers.eq_def]
  dsimp only
  refine congrArg _ (funext fun later => ?_)
  unfold convertSlot
  split
  · rfl
  · cases v <;> simp only [bind_assoc, pure_bind] <;> rfl

/-! ## Slots that are filled -/

theorem fill_none {earlier later : List (String × Slot Nat)} {key : String} {old : Slot Nat} {position : Nat}
    (h : key ∉ Fields.keys earlier) :
    fill key none position (earlier ++ (key, old) :: later) = earlier ++ (key, .one position) :: later := by
  simp only [fill, Fields.insert_append h]

theorem fill_some {earlier later : List (String × Slot Nat)} {key : String} {filled rest : List (Option Nat)}
    {old : Option Nat} {position : Nat} (h : key ∉ Fields.keys earlier) :
    fill key (some filled.length) position (earlier ++ (key, .many (filled ++ old :: rest)) :: later)
      = earlier ++ (key, .many (filled ++ some position :: rest)) :: later := by
  simp only [fill, Fields.get?_append h, Fields.insert_append h, List.set_append_right _ _ (Nat.le_refl _),
    Nat.sub_self, List.set_cons_zero]

/-! ## The loop beside the recursion -/

/-- The progress with given records, one of which has given slots. -/
def Progress.around (front : List GraphNode) (record : GraphNode) (fields : List (String × Slot Nat))
    (later : List GraphNode) : Progress :=
  ⟨⟨(front ++ { record with fields } :: later).toArray⟩, front.length + 1 + later.length⟩

theorem modify_append_cons {α : Type} (f : α → α) (front : List α) (a : α) (later : List α) :
    (front ++ a :: later).modify front.length f = front ++ f a :: later := by
  induction front with
  | nil => rfl
  | cons b rest ih => simp only [List.cons_append, List.length_cons, List.modify_succ_cons, ih]

theorem size_around (front : List GraphNode) (record : GraphNode) (fields : List (String × Slot Nat))
    (later : List GraphNode) :
    (Progress.around front record fields later).graph.nodes.size = front.length + 1 + later.length := by
  simp only [Progress.around, List.size_toArray, List.length_append, List.length_cons]
  omega

/-- A node that is made goes to the end, and its position into its owner. -/
theorem around_add (front : List GraphNode) (record : GraphNode) (fields : List (String × Slot Nat))
    (later : List GraphNode) (p : Pending) (h : p.owner = front.length) (made : GraphNode) :
    (Progress.around front record fields later).add p made
      = .around front record (fill p.key p.index (front.length + 1 + later.length) fields) (later ++ [made]) := by
  rw [Progress.add, size_around]
  simp only [Progress.around, Graph.update, List.push_toArray, List.modify_toArray, List.append_assoc,
    List.cons_append, h, modify_append_cons, List.length_append, List.length_singleton, Nat.add_assoc]

/-- The same progress, seen around a later node. -/
theorem around_append (front : List GraphNode) (record : GraphNode) (fields : List (String × Slot Nat))
    (later : List GraphNode) (other : GraphNode) (more : List GraphNode) :
    Progress.around front record fields (later ++ other :: more)
      = .around (front ++ { record with fields } :: later) other other.fields more := by
  simp only [Progress.around, List.append_assoc, List.cons_append, List.length_append, List.length_cons,
    Progress.mk.injEq, true_and]
  omega

theorem run_error {state : Progress} {p : Pending} {rest : List Pending} {e : Error}
    (h : expand p.place state.graph.nodes.size p.document = .error e) : run state (p :: rest) = .error e := by
  rw [run]
  split
  · next e' h' =>
    rw [h] at h'
    cases h'
    rfl
  · next h' =>
    rw [h] at h'
    cases h'

theorem run_ok {state : Progress} {p : Pending} {rest children : List Pending} {record : GraphNode}
    (h : expand p.place state.graph.nodes.size p.document = .ok (record, children)) :
    run state (p :: rest) = run (state.add p record) (children.reverse ++ rest) := by
  rw [run]
  split
  · next h' =>
    rw [h] at h'
    cases h'
  · next record' children' h' =>
    rw [h] at h'
    cases h'
    rfl

theorem emptySlots_cons (key : String) (v : Value) (rest : List (String × Value)) :
    emptySlots ((key, v) :: rest) = ((emptySlot? key v).map fun slot => (key, slot)).toList ++ emptySlots rest := by
  unfold emptySlots
  cases h : emptySlot? key v <;> simp [h]

/-- An object is refused by the loop and by the recursion for the same reason, or accepted by both. -/
theorem expand_object (place : Place) (position : Nat) (members : List (String × Value)) :
    (∃ e, expand place position (.object members) = .error e ∧ convert place (.object members) = .error e) ∨
    ∃ record : GraphNode, record.fields = emptySlots members ∧
      expand place position (.object members) = .ok (record, pendingChildren place position members) ∧
      convert place (.object members) = convertMembers place members >>= fun slots =>
        .ok ⟨0, record.kind, record.tag, record.span, slots, record.attrs⟩ := by
  rw [expand, convert]
  cases tag? (.object members) with
  | none => exact .inl ⟨_, rfl, rfl⟩
  | some tag =>
    cases spanOf (.object members) place with
    | error e => exact .inl ⟨e, rfl, rfl⟩
    | ok span => exact .inr ⟨_, rfl, rfl, rfl⟩

/-! ### What the recursion adds -/

/-- Child slots numbered from `next` on, with positions for nodes. -/
def placed (next : Nat) (slots : List (String × Slot Node)) : List (String × Slot Nat) :=
  Graph.positions (Node.stampedFields next slots)

/-- The records of the nodes in child slots, numbered from `next` on, in the order in which they are made. -/
def made (next : Nat) (slots : List (String × Slot Node)) : List GraphNode :=
  (Node.makingFields (Node.stampedFields next slots)).map Graph.recordOf

theorem placed_append (next : Nat) (a b : List (String × Slot Node)) :
    placed next (a ++ b) = placed (next + Node.sizeFields b) a ++ placed next b := by
  simp only [placed, Graph.positions, Node.stampedFields_append, List.map_append]

theorem made_append (next : Nat) (a b : List (String × Slot Node)) :
    made next (a ++ b) = made next b ++ made (next + Node.sizeFields b) a := by
  simp only [made, Node.stampedFields_append, Node.makingFields_append, List.map_append]

theorem length_made (next : Nat) (slots : List (String × Slot Node)) :
    (made next slots).length = Node.sizeFields slots := by
  rw [made, List.length_map, Node.length_makingFields_stamped]

/-- The places of a list, with positions for nodes. -/
def placedItems (next : Nat) (nodes : List Node) : List (Option Nat) :=
  (Node.stampedItems next (nodes.map some)).map fun item => item.bind fun c => some (c.id - 1)

/-- The records of the nodes in a list. -/
def madeItems (next : Nat) (nodes : List Node) : List GraphNode :=
  (Node.makingItems (Node.stampedItems next (nodes.map some))).map Graph.recordOf

theorem length_madeItems (next : Nat) (nodes : List Node) :
    (madeItems next nodes).length = Node.sizeItems (nodes.map some) := by
  rw [madeItems, List.length_map, Node.length_makingItems_stamped]

/-- The records of a tree. -/
def madeTree (next : Nat) (n : Node) : List GraphNode := (n.stamped next).making.map Graph.recordOf

theorem placed_one (next : Nat) (key : String) (n : Node) :
    placed (next + 1) [(key, .one n)] = [(key, .one next)] := by
  cases n
  rfl

theorem made_one (next : Nat) (key : String) (n : Node) : made next [(key, .one n)] = madeTree next n := rfl

theorem placedItems_cons (next : Nat) (n : Node) (nodes : List Node) :
    placedItems next (n :: nodes) = some (next + Node.sizeItems (nodes.map some) - 1) :: placedItems next nodes := by
  rw [placedItems, List.map_cons, Node.stampedItems, List.map_cons, ← placedItems]
  cases n
  rfl

theorem madeItems_cons (next : Nat) (n : Node) (nodes : List Node) :
    madeItems next (n :: nodes) = madeItems next nodes ++ madeTree (next + Node.sizeItems (nodes.map some)) n := by
  rw [madeItems, List.map_cons, Node.stampedItems, Node.makingItems, List.map_append]
  rfl

/-! ### Steps -/

/-- A member that is not a child slot leaves everything as it is. -/
theorem run_skipped {v : Value} {key : String} (h : (bookkeeping.contains key || !isSlot key v) = true) (place : Place)
    (earlier done : List (String × Slot Nat)) (front : List GraphNode) (owner : GraphNode) (later : List GraphNode)
    (rest : List Pending) :
    run (.around front owner (earlier ++ (((emptySlot? key v).map fun slot => (key, slot)).toList ++ done)) later)
        ((pendingOf place front.length key v).reverse ++ rest)
      = convertSlot place key v >>= fun slot =>
        run (.around front owner
          (earlier ++ (placed (front.length + 1 + later.length + 1) (slot.map fun slot => (key, slot)).toList ++ done))
          (later ++ made (front.length + 1 + later.length + 1) (slot.map fun slot => (key, slot)).toList)) rest := by
  unfold emptySlot? pendingOf convertSlot
  rw [if_pos h, if_pos h, if_pos h]
  show run (.around front owner (earlier ++ ([] ++ done)) later) rest
    = run (.around front owner (earlier ++ ([] ++ done)) (later ++ [])) rest
  rw [List.append_nil]

mutual

/-- A child on top of the stack is converted. Its records go behind those that are there, and its position into the
slot that waits for it. -/
theorem run_pending : ∀ (document : Value) (place : Place) (key : String) (index : Option Nat)
    (front : List GraphNode) (owner : GraphNode) (fields : List (String × Slot Nat)) (later : List GraphNode)
    (rest : List Pending), document.hasDistinctKeys →
    run (.around front owner fields later) (⟨document, place, front.length, key, index⟩ :: rest)
      = convert place document >>= fun child =>
        run (.around front owner (fill key index (front.length + 1 + later.length) fields)
          (later ++ madeTree (front.length + 1 + later.length + 1) child)) rest
  | .object members, place, key, index, front, owner, fields, later, rest, hkeys => by
    rw [Value.hasDistinctKeys_object] at hkeys
    rcases expand_object place (front.length + 1 + later.length) members with
      ⟨e, hexpand, hconvert⟩ | ⟨record, hslots, hexpand, hconvert⟩
    · rw [hconvert]
      exact run_error (by rw [size_around]; exact hexpand)
    · have hlength : (front ++ { owner with fields := fill key index (front.length + 1 + later.length) fields }
          :: later).length = front.length + 1 + later.length := by
        simp only [List.length_append, List.length_cons]
        omega
      -- From here on the new node is the owner, and none of its slots are filled.
      have hmembers := run_members members place [] (front ++ { owner with
        fields := fill key index (front.length + 1 + later.length) fields } :: later) record [] rest hkeys.2 hkeys.1
        (by simp [Fields.keys])
      rw [List.nil_append, hlength, ← hslots, ← around_append] at hmembers
      rw [run_ok (by rw [size_around]; exact hexpand), around_add _ _ _ _ _ rfl, hmembers, hconvert, bind_assoc]
      refine congrArg _ (funext fun slots => ?_)
      show run _ rest = run (.around front owner _ (later ++ Graph.recordOf _ :: made _ slots)) rest
      rw [List.nil_append, List.nil_append, around_append]
      rfl
  | .null, _, _, _, _, _, _, _, _, _ => run_error rfl
  | .bool _, _, _, _, _, _, _, _, _, _ => run_error rfl
  | .int _, _, _, _, _, _, _, _, _, _ => run_error rfl
  | .float _, _, _, _, _, _, _, _, _, _ => run_error rfl
  | .str _, _, _, _, _, _, _, _, _, _ => run_error rfl
  | .moment _, _, _, _, _, _, _, _, _, _ => run_error rfl
  | .list _, _, _, _, _, _, _, _, _, _ => run_error rfl
termination_by document => (sizeOf document, 0)

/-- The members of a node, the last one first. -/
theorem run_members : ∀ (members : List (String × Value)) (place : Place) (earlier : List (String × Slot Nat))
    (front : List GraphNode) (owner : GraphNode) (later : List GraphNode) (rest : List Pending),
    Value.membersDistinct members → (Fields.keys members).Nodup →
    (∀ key ∈ Fields.keys members, key ∉ Fields.keys earlier) →
    run (.around front owner (earlier ++ emptySlots members) later)
        ((pendingChildren place front.length members).reverse ++ rest)
      = convertMembers place members >>= fun slots =>
        run (.around front owner (earlier ++ placed (front.length + 1 + later.length + 1) slots)
          (later ++ made (front.length + 1 + later.length + 1) slots)) rest
  | [], _, earlier, front, owner, later, rest, _, _, _ => by
    show run (.around front owner (earlier ++ []) later) rest
      = run (.around front owner (earlier ++ []) (later ++ [])) rest
    rw [List.append_nil later]
  | (key, v) :: members, place, earlier, front, owner, later, rest, hdistinct, hnodup, hearlier => by
    rw [Value.membersDistinct_cons] at hdistinct
    obtain ⟨hkey, hnodup⟩ := List.nodup_cons.mp hnodup
    have hlast : ∀ k ∈ Fields.keys members,
        k ∉ Fields.keys (earlier ++ ((emptySlot? key v).map fun slot => (key, slot)).toList) := by
      intro k hk hmem
      rw [Fields.keys, List.map_append, List.mem_append] at hmem
      rcases hmem with hmem | hmem
      · exact hearlier k (List.mem_cons_of_mem _ hk) hmem
      · have hsame : k = key := by
          revert hmem
          cases emptySlot? key v <;> simp
        exact hkey (hsame ▸ hk)
    -- The later members lie on top of the stack; the nodes of the first one are numbered after theirs.
    rw [pendingChildren, List.reverse_append, List.append_assoc, emptySlots_cons, ← List.append_assoc,
      run_members members place _ front owner later _ hdistinct.2 hnodup hlast, convertMembers_cons, bind_assoc]
    refine congrArg _ (funext fun slots => ?_)
    rw [List.append_assoc, run_slot v place key earlier _ front owner _ rest hdistinct.1
      (hearlier key List.mem_cons_self), bind_assoc]
    refine congrArg _ (funext fun slot => ?_)
    have hnext : front.length + 1 + (later ++ made (front.length + 1 + later.length + 1) slots).length + 1
        = front.length + 1 + later.length + 1 + Node.sizeFields slots := by
      rw [List.length_append, length_made]
      omega
    rw [hnext, List.append_assoc, ← made_append, ← placed_append]
    rfl
termination_by members => (sizeOf members, 0)

/-- One member of a node. -/
theorem run_slot : ∀ (v : Value) (place : Place) (key : String) (earlier done : List (String × Slot Nat))
    (front : List GraphNode) (owner : GraphNode) (later : List GraphNode) (rest : List Pending),
    v.hasDistinctKeys → key ∉ Fields.keys earlier →
    run (.around front owner (earlier ++ (((emptySlot? key v).map fun slot => (key, slot)).toList ++ done)) later)
        ((pendingOf place front.length key v).reverse ++ rest)
      = convertSlot place key v >>= fun slot =>
        run (.around front owner
          (earlier ++ (placed (front.length + 1 + later.length + 1) (slot.map fun slot => (key, slot)).toList ++ done))
          (later ++ made (front.length + 1 + later.length + 1) (slot.map fun slot => (key, slot)).toList)) rest
  | .list items, place, key, earlier, done, front, owner, later, rest, hdistinct, hkey => by
    by_cases hskip : (bookkeeping.contains key || !isSlot key (.list items)) = true
    · exact run_skipped hskip place earlier done front owner later rest
    · have hitems := run_items items (.key key :: place) key [] earlier done front owner later rest
        (by simpa [Value.hasDistinctKeys] using hdistinct) hkey
      unfold emptySlot? pendingOf convertSlot
      rw [if_neg hskip, if_neg hskip, if_neg hskip, bind_assoc]
      exact hitems
  | .object members, place, key, earlier, done, front, owner, later, rest, hdistinct, hkey => by
    by_cases hskip : (bookkeeping.contains key || !isSlot key (.object members)) = true
    · exact run_skipped hskip place earlier done front owner later rest
    · have hpending := run_pending (.object members) (.key key :: place) key none front owner
        (earlier ++ (key, .absent) :: done) later rest hdistinct
      unfold emptySlot? pendingOf convertSlot
      rw [if_neg hskip, if_neg hskip, if_neg hskip, bind_assoc]
      refine hpending.trans (congrArg _ (funext fun child => ?_))
      show _ = run (.around front owner (earlier ++ (placed _ [(key, .one child)] ++ done))
        (later ++ made _ [(key, .one child)])) rest
      rw [fill_none hkey, placed_one, made_one, List.singleton_append]
  | .null, place, key, earlier, done, front, owner, later, rest, _, _ => by
    by_cases hskip : (bookkeeping.contains key || !isSlot key .null) = true
    · exact run_skipped hskip place earlier done front owner later rest
    · unfold emptySlot? pendingOf convertSlot
      rw [if_neg hskip, if_neg hskip, if_neg hskip]
      show run (.around front owner (earlier ++ ([(key, .absent)] ++ done)) later) rest
        = run (.around front owner (earlier ++ ([(key, .absent)] ++ done)) (later ++ [])) rest
      rw [List.append_nil]
  | .bool _, place, key, earlier, done, front, owner, later, rest, _, _ =>
    run_skipped (by simp [isSlot]) place earlier done front owner later rest
  | .int _, place, key, earlier, done, front, owner, later, rest, _, _ =>
    run_skipped (by simp [isSlot]) place earlier done front owner later rest
  | .float _, place, key, earlier, done, front, owner, later, rest, _, _ =>
    run_skipped (by simp [isSlot]) place earlier done front owner later rest
  | .str _, place, key, earlier, done, front, owner, later, rest, _, _ =>
    run_skipped (by simp [isSlot]) place earlier done front owner later rest
  | .moment _, place, key, earlier, done, front, owner, later, rest, _, _ =>
    run_skipped (by simp [isSlot]) place earlier done front owner later rest
termination_by v => (sizeOf v, 1)

/-- The items of a list, the last one first. -/
theorem run_items : ∀ (items : List Value) (place : Place) (key : String) (filled : List (Option Nat))
    (earlier done : List (String × Slot Nat)) (front : List GraphNode) (owner : GraphNode) (later : List GraphNode)
    (rest : List Pending), Value.haveDistinctKeys items → key ∉ Fields.keys earlier →
    run (.around front owner (earlier ++ (key, .many (filled ++ (items.filter isNode).map fun _ => none)) :: done)
        later) ((pendingItems place front.length key filled.length items).reverse ++ rest)
      = convertItems place filled.length items >>= fun nodes =>
        run (.around front owner
          (earlier ++ (key, .many (filled ++ placedItems (front.length + 1 + later.length + 1) nodes)) :: done)
          (later ++ madeItems (front.length + 1 + later.length + 1) nodes)) rest
  | [], place, key, filled, earlier, done, front, owner, later, rest, _, _ => by
    show run (.around front owner (earlier ++ (key, .many (filled ++ [])) :: done) later) rest
      = run (.around front owner (earlier ++ (key, .many (filled ++ [])) :: done) (later ++ [])) rest
    rw [List.append_nil later]
  | v :: items, place, key, filled, earlier, done, front, owner, later, rest, hdistinct, hkey => by
    rw [Value.haveDistinctKeys_cons] at hdistinct
    rw [pendingItems, convertItems]
    by_cases hnode : isNode v = true
    · -- The first place stays open until the later items are done.
      have hlater := run_items items place key (filled ++ [none]) earlier done front owner later
        (⟨v, .index filled.length :: place, front.length, key, some filled.length⟩ :: rest) hdistinct.2 hkey
      rw [List.length_append, List.length_singleton, List.append_assoc] at hlater
      rw [if_pos hnode, if_pos hnode, List.filter_cons_of_pos hnode, List.reverse_cons, List.append_assoc, bind_assoc]
      refine hlater.trans (congrArg _ (funext fun nodes => ?_))
      rw [run_pending v _ key _ front owner _ _ rest hdistinct.1, bind_assoc]
      refine congrArg _ (funext fun child => ?_)
      have hnext : front.length + 1 + (later ++ madeItems (front.length + 1 + later.length + 1) nodes).length + 1
          = front.length + 1 + later.length + 1 + Node.sizeItems (nodes.map some) := by
        rw [List.length_append, length_madeItems]
        omega
      show _ = run (.around front owner (earlier ++ (key, .many (filled ++ placedItems _ (child :: nodes))) :: done)
        (later ++ madeItems _ (child :: nodes))) rest
      rw [placedItems_cons, madeItems_cons, ← hnext, Nat.add_sub_cancel, List.append_assoc filled,
        List.singleton_append, fill_some hkey, List.append_assoc later]
    · rw [if_neg hnode, if_neg hnode, List.filter_cons_of_neg hnode]
      exact run_items items place key filled earlier done front owner later rest hdistinct.2 hkey
termination_by items => (sizeOf items, 0)

end

/-! ## Whole documents -/

/-- All nodes of a document are made as the recursion converts them. -/
theorem build_eq {document : Value} (h : document.hasDistinctKeys) :
    build document = convert [] document >>= fun root => .ok ⟨⟨(madeTree 1 root).toArray⟩, root.size⟩ := by
  cases document with
  | object members =>
    rw [Value.hasDistinctKeys_object] at h
    rcases expand_object [] 0 members with ⟨e, hexpand, hconvert⟩ | ⟨record, hslots, hexpand, hconvert⟩
    · rw [build, hexpand, hconvert]
      rfl
    · -- The root has no owner, so the loop starts with its members.
      have hmembers := run_members members [] [] [] record [] [] h.2 h.1 (by simp [Fields.keys])
      rw [List.nil_append, List.append_nil, ← hslots] at hmembers
      rw [build, hexpand, hconvert, bind_assoc]
      refine hmembers.trans (congrArg _ (funext fun slots => ?_))
      rw [run, List.nil_append, List.nil_append, Progress.around, length_made]
      rfl
  | _ => rfl

theorem root_madeTree (n : Node) (count : Nat) :
    Progress.root ⟨⟨(madeTree 1 n).toArray⟩, count⟩ = .ok (n.stamped 1) := by
  rw [Progress.root, madeTree, Graph.node?_making]

end Loader

namespace Node

open Loader

/-- **The loop loads what the recursion converts**, with its nodes numbered in the order in which they are made. -/
theorem ofDocument_eq {document : Value} (h : document.hasDistinctKeys) :
    ofDocument document = convert [] document >>= fun root => .ok (root.stamped 1) := by
  rw [ofDocument, build_eq h, bind_assoc]
  exact congrArg _ (funext fun root => root_madeTree root root.size)

/-- A document is loaded with one note, of the number of its nodes. -/
theorem load_eq {document : Value} (h : document.hasDistinctKeys) :
    load document = match convert [] document with
      | .ok root => ⟨[⟨.debug, "qualytics.estree",
          "Loaded " ++ Number.natText root.size ++ " nodes (root " ++ root.tag ++ ")"⟩], .ok (root.stamped 1)⟩
      | .error e => ⟨[], .error e⟩ := by
  rw [load, build_eq h]
  cases convert [] document with
  | error e => rfl
  | ok root =>
    show (Traced.lift (Progress.root ⟨⟨(madeTree 1 root).toArray⟩, root.size⟩) >>= _) = _
    rw [root_madeTree]
    cases root
    rfl

end Node

end CodeMetrics
