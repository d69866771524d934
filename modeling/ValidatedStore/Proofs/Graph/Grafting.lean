import ValidatedStore.Proofs.Graph.Planting

/-!
# Values grafted onto a graph

A node is grafted onto a container by writing it as an entry or adding it as an item. The routes
from elsewhere are then the old ones, and those that go on from the container through the node. So
if the node shares nothing with the graph around the container, no container is reached twice that
was not before, and the graph can still be copied: the copy is the old one with another part at the
place of the container. What was just planted shares nothing with the graphs that were there before.
-/

namespace ValidatedStore

namespace Value

/-- Two values are the same, but for one part of the first in whose place the second has another
one. The place is given by the positions of the entries on the way to it. -/
inductive Exchanged (old new : Value) : List Nat → Value → Value → Prop
  /-- The part is the whole value. -/
  | whole : Exchanged old new [] old new
  /-- The part is in an item of an array. -/
  | item {place : List Nat} {value changed : Value} (front back : List Value)
      (h : Exchanged old new place value changed) :
      Exchanged old new (front.length :: place) (.array (front ++ value :: back))
        (.array (front ++ changed :: back))
  /-- The part is in an entry of an object. -/
  | entry {place : List Nat} {key : String} {value changed : Value}
      (front back : List (String × Value)) (h : Exchanged old new place value changed) :
      Exchanged old new (front.length :: place) (.object (front ++ (key, value) :: back))
        (.object (front ++ (key, changed) :: back))

end Value

namespace Heap

variable {heap changed : Heap} {node child start found source : Node} {nodes : List Node}
  {cell : Cell} {address position : Nat} {route place : List Nat} {tree : Option Value}
  {trees front back : List (Option Value)} {value old new : Value} {key : String}

/-- The place in the tree of a node at which a route from the node ends. Callables are not in the
tree, so that they do not count among the entries in front of another one. -/
def placeOf (heap : Heap) : Node → List Nat → List Nat
  | _, [] => []
  | node, position :: route =>
    ((heap.childrenOf node).take position).countP (· != .function) ::
      ((heap.childrenOf node)[position]?).elim [] fun child => heap.placeOf child route

/-- A heap before and after a node was grafted onto a container, at a position in it. -/
structure Grafts (heap changed : Heap) (address position : Nat) (node : Node) : Prop where
  /-- The node stands at the position. -/
  here : (changed.childrenOf (.container address))[position]? = some node
  /-- The other positions in the container are the same. -/
  beside : ∀ other, other ≠ position →
    (changed.childrenOf (.container address))[other]? =
      (heap.childrenOf (.container address))[other]?
  /-- The other containers are the same. -/
  elsewhere : ∀ other, other ≠ address → changed[other]? = heap[other]?

section Routes

/-- A node that does not lead to the container sees nothing of the graft. -/
theorem Grafts.sameAlong (h : heap.Grafts changed address position node)
    (hn : ∀ route, heap.follow source route ≠ some (.container address)) :
    heap.SameAlong changed source := by
  intro route other hr
  refine h.elsewhere other fun he => hn route ?_
  rw [hr, he]

/-- One step of a route after the graft is a step that there was, or goes from the container to the
node. -/
theorem Grafts.childrenOf_cases (h : heap.Grafts changed address position node) {other : Nat}
    (hc : (changed.childrenOf source)[other]? = some child) :
    (heap.childrenOf source)[other]? = some child ∨
      source = .container address ∧ other = position ∧ child = node := by
  by_cases hs : source = .container address
  · subst hs
    by_cases ho : other = position
    · subst ho
      exact .inr ⟨rfl, rfl, Option.some.inj (hc.symm.trans h.here)⟩
    · exact .inl ((h.beside other ho).symm.trans hc)
  · refine .inl ?_
    cases source with
    | container found =>
      have hne : found ≠ address := fun he => hs (congrArg Node.container he)
      rwa [childrenOf, h.elsewhere found hne] at hc
    | _ => exact hc

/-- A route after the graft was there before, or goes on from the container through the node. -/
theorem Grafts.follow_cases (h : heap.Grafts changed address position node)
    (hn : ∀ route, heap.follow node route ≠ some (.container address))
    (hr : changed.follow source route = some found) :
    heap.follow source route = some found ∨
      ∃ before below, route = before ++ position :: below ∧
        heap.follow source before = some (.container address) ∧
        heap.follow node below = some found := by
  induction route generalizing source with
  | nil => exact .inl hr
  | cons other route ih =>
    obtain ⟨child, hchild, hbelow⟩ := Option.bind_eq_some_iff.mp hr
    rcases h.childrenOf_cases hchild with hchild | ⟨rfl, rfl, rfl⟩
    · rcases ih hbelow with hr | ⟨before, below, rfl, hb, hf⟩
      · exact .inl ((follow_cons_of_child hchild route).trans hr)
      · exact .inr ⟨other :: before, below, rfl, (follow_cons_of_child hchild before).trans hb, hf⟩
    · exact .inr ⟨[], route, rfl, rfl, ((h.sameAlong hn).follow_eq route).symm.trans hbelow⟩

/-- Nothing in the container sees anything of the graft, if nothing led back to the container. -/
theorem Grafts.sameAlong_inside (h : heap.Grafts changed address position node)
    (honce : ¬heap.ReachedTwice (.container address))
    (hn : ∀ route, heap.follow node route ≠ some (.container address))
    (hm : child ∈ changed.childrenOf (.container address)) : heap.SameAlong changed child := by
  obtain ⟨other, hother⟩ := List.getElem?_of_mem hm
  refine h.sameAlong fun below hb => ?_
  rcases h.childrenOf_cases hother with hother | ⟨-, -, rfl⟩
  · exact honce ⟨address, other :: below, [], List.cons_ne_nil _ _,
      (follow_cons_of_child hother below).trans hb, rfl⟩
  · exact hn below hb

/-- A graft that shares nothing with a graph adds no second route to a container. -/
theorem Grafts.not_reachedTwice (h : heap.Grafts changed address position node)
    (hs : ¬heap.ReachedTwice start) (hn : ¬heap.ReachedTwice node)
    (hapart : heap.SharesNothing start node)
    (hr : heap.follow start route = some (.container address)) : ¬changed.ReachedTwice start := by
  have haway : ∀ below, heap.follow node below ≠ some (.container address) :=
    fun below => hapart route below address hr
  rintro ⟨twice, one, other, hne, hone, hother⟩
  rcases h.follow_cases haway hone with hone | ⟨before, below, rfl, hb, hf⟩ <;>
    rcases h.follow_cases haway hother with hother | ⟨before', below', rfl, hb', hf'⟩
  · exact hs ⟨twice, one, other, hne, hone, hother⟩
  · exact hapart one below' twice hone hf'
  · exact hapart other below twice hother hf
  · -- Both go through the node: the ways to it and those from it are the same.
    obtain rfl : before = before' := by
      by_contra hbefore
      exact hs ⟨address, before, before', hbefore, hb, hb'⟩
    obtain rfl : below = below' := by
      by_contra hbelow
      exact hn ⟨twice, below, below', hbelow, hf, hf'⟩
    exact hne rfl

end Routes

section Trees

/-- Callables alone unfold to nothing. -/
theorem Unfolds.eq_none_iff (h : heap.Unfolds node tree) : tree = none ↔ node = .function := by
  cases h <;> simp

/-- The tree of a container is put together from the trees of the nodes in it. -/
theorem exists_trees (hc : heap[address]? = some cell)
    (h : heap.Unfolds (.container address) tree) :
    ∃ trees, List.Forall₂ heap.Unfolds cell.children trees ∧ tree = some (assemble trees cell) := by
  obtain ⟨trees, ht⟩ : ∃ trees, List.Forall₂ heap.Unfolds cell.children trees := by
    refine exists_forall₂ fun child hm => ?_
    cases h with
    | array hc' hi =>
      obtain rfl := Option.some.inj (hc.symm.trans hc')
      exact ⟨_, hi child hm⟩
    | object hc' he =>
      obtain rfl := Option.some.inj (hc.symm.trans hc')
      obtain ⟨entry, hentry, rfl⟩ := List.mem_map.mp hm
      exact ⟨_, he entry hentry⟩
  exact ⟨trees, ht, h.unique (unfolds_assemble hc ht)⟩

/-- Among the trees of several nodes, that of one node can be exchanged for what the node unfolds to
elsewhere, if the other nodes unfold there to what they did. -/
theorem exists_exchange (hu : List.Forall₂ heap.Unfolds nodes trees)
    (hc : nodes[position]? = some child)
    (hothers : ∀ other ≠ position, ∀ node, nodes[other]? = some node →
      ∀ tree, heap.Unfolds node tree → changed.Unfolds node tree) :
    ∃ front tree back, trees = front ++ tree :: back ∧ heap.Unfolds child tree ∧
      front.reduceOption.length = (nodes.take position).countP (· != .function) ∧
      ∀ other, changed.Unfolds child other →
        List.Forall₂ changed.Unfolds nodes (front ++ other :: back) := by
  induction hu generalizing position with
  | nil => simp at hc
  | @cons node tree nodes trees hfirst hrest ih =>
    cases position with
    | zero =>
      obtain rfl : node = child := by simpa using hc
      refine ⟨[], tree, trees, rfl, hfirst, rfl, fun other ho => .cons ho ?_⟩
      refine ((List.forall₂_and_left _ _).mpr ⟨fun node hm => hm, hrest⟩).imp ?_
      rintro node tree ⟨hm, hu⟩
      obtain ⟨index, hindex⟩ := List.getElem?_of_mem hm
      exact hothers (index + 1) (Nat.succ_ne_zero index) node hindex tree hu
    | succ position =>
      obtain ⟨front, found, back, rfl, hfound, hcount, hchange⟩ := ih hc fun index hi =>
        hothers (index + 1) fun he => hi (Nat.succ.inj he)
      have hsame := hothers 0 (Nat.succ_ne_zero position).symm node rfl tree hfirst
      refine ⟨tree :: front, found, back, rfl, hfound, ?_,
        fun other ho => .cons hsame (hchange other ho)⟩
      rw [List.take_succ_cons, List.countP_cons, ← hcount]
      cases tree with
      | none =>
        rw [hfirst.eq_none_iff.mp rfl]
        simp
      | some value =>
        have hne : node ≠ .function := fun he => by simpa using hfirst.eq_none_iff.mpr he
        simp [hne]

/-- Entries without a tree are left out wherever they stand. -/
theorem length_reduceOption_zipWith {entries : List (String × Node)}
    (h : entries.length = front.length) :
    (List.zipWith (fun entry tree => tree.map (entry.1, ·)) entries front).reduceOption.length =
      front.reduceOption.length := by
  induction front generalizing entries with
  | nil => simp
  | cons tree front ih =>
    cases entries with
    | nil => cases h
    | cons entry entries =>
      have hrest := ih (Nat.succ.inj h)
      cases tree <;> simpa using hrest

/-- Exchanging a part of one of the trees exchanges it in the container. -/
theorem exchanged_assemble {other : Value}
    (hl : cell.children.length = (front ++ some value :: back).length)
    (h : Value.Exchanged old new place value other) :
    Value.Exchanged old new (front.reduceOption.length :: place)
      (assemble (front ++ some value :: back) cell)
      (assemble (front ++ some other :: back) cell) := by
  cases cell with
  | array items =>
    simp only [assemble, List.reduceOption_append, List.reduceOption_cons_of_some]
    exact .item _ _ h
  | object entries =>
    obtain ⟨before, rest, rfl, hbefore⟩ : ∃ before rest, entries = before ++ rest ∧
        before.length = front.length := by
      refine ⟨entries.take front.length, entries.drop front.length,
        (List.take_append_drop _ _).symm, ?_⟩
      rw [Cell.children, List.length_map, List.length_append, List.length_cons] at hl
      rw [List.length_take]
      omega
    cases rest with
    | nil =>
      simp only [Cell.children, List.length_map, List.length_append, List.length_cons,
        List.length_nil] at hl
      omega
    | cons entry behind =>
      simp only [assemble, List.zipWith_append hbefore, List.zipWith_cons_cons, Option.map_some,
        List.reduceOption_append, List.reduceOption_cons_of_some]
      rw [← length_reduceOption_zipWith hbefore]
      exact .entry _ _ h

/-- After a graft the tree of a node is the old one, with another part at the place of the
container. -/
theorem Grafts.exists_exchanged (h : heap.Grafts changed address position node)
    (hs : ¬heap.ReachedTwice source) (hr : heap.follow source route = some (.container address))
    (hold : heap.Unfolds (.container address) (some old))
    (hnew : changed.Unfolds (.container address) (some new)) (hu : heap.Unfolds source tree) :
    ∃ before after, tree = some before ∧ changed.Unfolds source (some after) ∧
      Value.Exchanged old new (heap.placeOf source route) before after := by
  induction route generalizing source tree with
  | nil =>
    obtain rfl : source = .container address := Option.some.inj hr
    exact ⟨old, new, hu.unique hold, hnew, .whole⟩
  | cons index route ih =>
    obtain ⟨child, hchild, hbelow⟩ := Option.bind_eq_some_iff.mp hr
    cases source with
    | container found =>
      cases hc : heap[found]? with
      | none => simp [childrenOf, hc] at hchild
      | some cell =>
        have hchildren := childrenOf_container hc
        rw [hchildren] at hchild
        -- No other route leads to the container: neither the empty one nor one beside this one.
        have honly : ∀ other, other ≠ index :: route →
            heap.follow (.container found) other ≠ some (.container address) :=
          fun other hne ho => hs ⟨address, other, index :: route, hne, ho, hr⟩
        have hfound : found ≠ address := fun he => honly [] (by simp) (he ▸ rfl)
        have hothers : ∀ other ≠ index, ∀ node, cell.children[other]? = some node →
            ∀ tree, heap.Unfolds node tree → changed.Unfolds node tree := by
          intro other hne node hnode tree
          refine (h.sameAlong fun below hb => honly (other :: below) ?_ ?_).unfolds
          · exact fun he => hne (List.cons.inj he).1
          · rw [follow_cons_of_child (by rw [hchildren, hnode]), hb]
        obtain ⟨trees, htrees, rfl⟩ := exists_trees hc hu
        obtain ⟨front, old', back, rfl, hold', hcount, hchange⟩ :=
          exists_exchange htrees hchild hothers
        have honce : ¬heap.ReachedTwice child := fun htwice => hs <| htwice.of_follow
          ((follow_cons_of_child (hchildren ▸ hchild) []).trans rfl)
        obtain ⟨before, after, rfl, hafter, hexchanged⟩ := ih honce hbelow hold'
        refine ⟨_, _, rfl, unfolds_assemble ((h.elsewhere found hfound).trans hc)
          (hchange _ hafter), ?_⟩
        have hplace : heap.placeOf (.container found) (index :: route) =
            front.reduceOption.length :: heap.placeOf child route := by
          rw [placeOf, hchildren, hchild, Option.elim_some, hcount]
        rw [hplace]
        exact exchanged_assemble htrees.length_eq hexchanged
    | _ => simp [childrenOf] at hchild

/-- After a graft that shares nothing with a graph, the graph is copied to the old copy with another
part at the place of the container. -/
theorem Grafts.exists_copy {copied : Value} (h : heap.Grafts changed address position node)
    (hclosed : heap.Closed) (hchanged : changed.Closed) (hs : heap.Holds start)
    (hs' : changed.Holds start) (hcopy : heap.deepCopy start = some copied)
    (hn : ¬heap.ReachedTwice node) (hapart : heap.SharesNothing start node)
    (hr : heap.follow start route = some (.container address))
    (hold : heap.Unfolds (.container address) (some old))
    (hnew : changed.Unfolds (.container address) (some new)) :
    ∃ after, changed.deepCopy start = some after ∧
      Value.Exchanged old new (heap.placeOf start route) copied after := by
  obtain ⟨honce, tree, hu, rfl⟩ := (deepCopy_eq_some_iff hclosed hs).mp hcopy
  obtain ⟨before, after, rfl, hafter, hexchanged⟩ := h.exists_exchanged honce hr hold hnew hu
  exact ⟨after, (deepCopy_eq_some_iff hchanged hs').mpr
    ⟨h.not_reachedTwice honce hn hapart hr, _, hafter, rfl⟩, hexchanged⟩

end Trees

section Changes

variable {grown : Cell} {change : Value → Value → Prop} {copied : Value}

/-- What a container becomes by taking a node: the node stands at one position, and what the
container stands for changes in some way. -/
structure Takes (heap : Heap) (cell grown : Cell) (node : Node) (change : Value → Value → Prop) :
    Prop where
  /-- One position is written. -/
  exists_position : ∃ position : Nat, grown.children[position]? = some node ∧
    ∀ other ≠ position, grown.children[other]? = cell.children[other]?
  /-- The value of the container is changed. -/
  exists_trees : ∀ trees, List.Forall₂ heap.Unfolds cell.children trees →
    ∃ others, List.Forall₂ heap.Unfolds grown.children others ∧
      change (assemble trees cell) (assemble others grown)

/-- An array takes an item at its end. -/
theorem takes_append (hnode : heap.Unfolds node (some value)) (items : List Node) :
    heap.Takes (.array items) (.array (items ++ [node])) node fun old new =>
      ∃ values, old = .array values ∧ new = .array (values ++ [value]) where
  exists_position := by
    refine ⟨items.length, by simp [Cell.children], fun other hne => ?_⟩
    rw [Cell.children, Cell.children]
    rcases Nat.lt_or_gt_of_ne hne with hlt | hgt
    · rw [List.getElem?_append_left hlt]
    · rw [List.getElem?_eq_none (Nat.le_of_lt hgt), List.getElem?_eq_none]
      rw [List.length_append, List.length_singleton]
      exact hgt
  exists_trees trees ht :=
    ⟨trees ++ [some value], List.rel_append ht (.cons hnode .nil), trees.reduceOption, rfl, by
      rw [assemble, List.reduceOption_append, List.reduceOption_singleton, Option.toList_some]⟩

/-- The trees of entries after one was written. A callable that was there would have no tree to put
another one in the place of. -/
theorem exists_insert_trees {entries : List (String × Node)}
    (ht : List.Forall₂ heap.Unfolds (entries.map Prod.snd) trees)
    (hkey : Fields.find? key entries ≠ some .function)
    (hnode : heap.Unfolds node (some value)) :
    ∃ others, List.Forall₂ heap.Unfolds ((Fields.insert key node entries).map Prod.snd) others ∧
      assemble others (.object (Fields.insert key node entries)) =
        .object (Fields.insert key value
          (List.zipWith (fun entry tree => tree.map (entry.1, ·)) entries trees).reduceOption) := by
  simp only [assemble, Value.object.injEq]
  induction entries generalizing trees with
  | nil => exact ⟨[some value], .cons hnode .nil, rfl⟩
  | cons entry entries ih =>
    obtain ⟨first, old⟩ := entry
    obtain ⟨tree, trees, htree, hrest, rfl⟩ := List.forall₂_cons_left_iff.mp ht
    by_cases hf : first = key
    · subst hf
      have hold : old ≠ .function := by simpa [Fields.find?] using hkey
      cases tree with
      | none => exact absurd (htree.eq_none_iff.mp rfl) hold
      | some before =>
        rw [Fields.insert, if_pos rfl]
        refine ⟨some value :: trees, .cons hnode hrest, ?_⟩
        simp [Fields.insert]
    · rw [Fields.find?, if_neg hf] at hkey
      obtain ⟨others, hothers, hwritten⟩ := ih hrest hkey
      rw [Fields.insert, if_neg hf]
      refine ⟨tree :: others, .cons htree hothers, ?_⟩
      cases tree with
      | none => simpa using hwritten
      | some before => simpa [Fields.insert, hf] using hwritten

/-- An object takes an entry: behind the others if its name is new, and else in its place. -/
theorem takes_insert {entries : List (String × Node)} (hnode : heap.Unfolds node (some value))
    (hkey : Fields.find? key entries ≠ some .function) :
    heap.Takes (.object entries) (.object (Fields.insert key node entries)) node fun old new =>
      ∃ fields, old = .object fields ∧ new = .object (Fields.insert key value fields) where
  exists_position := Fields.exists_position_insert key node entries
  exists_trees trees ht := by
    obtain ⟨others, hothers, hwritten⟩ := exists_insert_trees ht hkey hnode
    exact ⟨others, hothers, _, rfl, hwritten⟩

/-- To put the container that it becomes in its place is to graft the node onto it. -/
theorem Takes.exists_grafts (h : heap.Takes cell grown node change)
    (hc : heap[address]? = some cell) (hset : (heap.set address grown)[address]? = some grown) :
    ∃ position, heap.Grafts (heap.set address grown) address position node := by
  obtain ⟨position, hhere, hbeside⟩ := h.exists_position
  refine ⟨position, ?_, fun other hne => ?_, fun other hne => List.getElem?_set_ne hne.symm⟩
  · rw [childrenOf_container hset, hhere]
  · rw [childrenOf_container hset, childrenOf_container hc, hbeside other hne]

/-- A node that shares nothing with a graph is taken by a container of the graph: the copy of the
graph is the old one, with the container's part changed. -/
theorem Takes.exists_copy (h : heap.Takes cell grown node change) (hclosed : heap.Closed)
    (hc : heap[address]? = some cell) (hs : heap.Holds start)
    (hcopy : heap.deepCopy start = some copied) (honce : ¬heap.ReachedTwice node)
    (hapart : heap.SharesNothing start node)
    (hr : heap.follow start route = some (.container address))
    (hgrown : Closed (heap.set address grown)) :
    ∃ old new after, heap.deepCopy (.container address) = some old ∧ change old new ∧
      Heap.deepCopy (heap.set address grown) start = some after ∧
      Value.Exchanged old new (heap.placeOf start route) copied after := by
  have hset : (heap.set address grown)[address]? = some grown := by
    rw [List.getElem?_set_self (List.getElem?_eq_some_iff.mp hc).1]
  obtain ⟨position, hgraft⟩ := h.exists_grafts hc hset
  -- The container is copied by itself, since it is reached once.
  have hinside : heap.Holds (.container address) := hclosed.holds_follow hs hr
  have hstart : ¬heap.ReachedTwice start := ((deepCopy_eq_some_iff hclosed hs).mp hcopy).1
  have hcontainer : ¬heap.ReachedTwice (.container address) := fun htwice =>
    hstart (htwice.of_follow hr)
  obtain ⟨tree, after, htree, -⟩ : ∃ tree after, heap.Unfolds (.container address) tree ∧
      copyNode heap (heap.length + 1) (.container address) [] = some (tree, after) :=
    ((copyNode_cases hclosed hinside (Nat.lt_succ_self _)).resolve_left
      fun htwice => hcontainer htwice.1).2
  obtain ⟨trees, htrees, rfl⟩ := Heap.exists_trees hc htree
  obtain ⟨others, hothers, hchange⟩ := h.exists_trees trees htrees
  have hsame : ∀ child ∈ grown.children, heap.SameAlong (heap.set address grown) child := by
    rw [← childrenOf_container hset]
    exact fun child =>
      hgraft.sameAlong_inside hcontainer fun below => hapart route below address hr
  have hnew : List.Forall₂ (Unfolds (heap.set address grown)) grown.children others :=
    unfolds_each hothers hsame
  have hs' : Heap.Holds (heap.set address grown) start := hs.of_length_le (by simp)
  obtain ⟨after, hafter, hexchanged⟩ := hgraft.exists_copy hclosed hgrown hs hs' hcopy honce
    hapart hr htree (unfolds_assemble hset hnew)
  exact ⟨_, _, after, (deepCopy_eq_some_iff hclosed hinside).mpr ⟨hcontainer, _, htree, rfl⟩,
    hchange, hafter, hexchanged⟩

/-- A node is grafted onto the containers in a graph: afterwards the graph can still be copied, and
its copy is the old one with the value of the node in the place of the container. -/
structure TakesGraft (heap : Heap) (start : Node) (copied : Value) (node : Node) (value : Value) :
    Prop where
  /-- An object takes it as an entry, but not in the place of a callable. -/
  insert : ∀ route address entries key, heap.follow start route = some (.container address) →
    heap[address]? = some (.object entries) → Fields.find? key entries ≠ some .function →
    ∃ changed fields after, heap.insert? (.container address) key node = some changed ∧
      heap.deepCopy (.container address) = some (.object fields) ∧
      changed.deepCopy start = some after ∧
      Value.Exchanged (.object fields) (.object (Fields.insert key value fields))
        (heap.placeOf start route) copied after
  /-- An array takes it as its last item. -/
  push : ∀ route address items, heap.follow start route = some (.container address) →
    heap[address]? = some (.array items) →
    ∃ changed values after, heap.push? (.container address) node = some changed ∧
      heap.deepCopy (.container address) = some (.array values) ∧
      changed.deepCopy start = some after ∧
      Value.Exchanged (.array values) (.array (values ++ [value]))
        (heap.placeOf start route) copied after

/-- A graph takes every node that stands for a value and shares nothing with the graph. -/
theorem takesGraft_of_sharesNothing (hclosed : heap.Closed) (hs : heap.Holds start)
    (hn : heap.Holds node) (hcopy : heap.deepCopy start = some copied)
    (honce : ¬heap.ReachedTwice node) (hnode : heap.Unfolds node (some value))
    (hapart : heap.SharesNothing start node) : heap.TakesGraft start copied node value where
  insert route address entries key hr hc hkey := by
    have hi : heap.insert? (.container address) key node =
        some (heap.set address (.object (Fields.insert key node entries))) := by
      rw [insert?, entries?, hc, Option.map_some]
    obtain ⟨_, _, after, hold, ⟨fields, rfl, rfl⟩, hafter, hexchanged⟩ :=
      (takes_insert hnode hkey).exists_copy hclosed hc hs hcopy honce hapart hr
        (hclosed.insert hn hi)
    exact ⟨_, fields, after, hi, hold, hafter, hexchanged⟩
  push route address items hr hc := by
    have hp : heap.push? (.container address) node =
        some (heap.set address (.array (items ++ [node]))) := by
      rw [push?, items?, hc, Option.map_some]
    obtain ⟨_, _, after, hold, ⟨values, rfl, rfl⟩, hafter, hexchanged⟩ :=
      (takes_append hnode items).exists_copy hclosed hc hs hcopy honce hapart hr
        (hclosed.push hn hp)
    exact ⟨_, values, after, hp, hold, hafter, hexchanged⟩

end Changes

end Heap

end ValidatedStore
