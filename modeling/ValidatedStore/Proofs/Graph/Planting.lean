import ValidatedStore.Proofs.Graph.Copies

/-!
# Values put into a heap

A value is put into a heap as fresh containers behind those that are there. From its node exactly
these are reached, each by one route, and the node unfolds to the value: so its copy gives the value
back. What a node leads to and unfolds to depends on the containers on its routes alone; hence the
nodes that were there before see nothing of the fresh containers. The recursion follows the one that
makes the containers.
-/

namespace ValidatedStore

namespace Heap

variable {heap middle larger other : Heap} {node child found : Node} {nodes rest : List Node}
  {cell : Cell} {address position : Nat} {route visited after : List Nat} {tree : Option Value}
  {trees : List (Option Value)} {value : Value}

section Following

/-- A route goes on where another one ends. -/
theorem follow_append (heap : Heap) (node : Node) (route further : List Nat) :
    heap.follow node (route ++ further) =
      (heap.follow node route).bind fun found => heap.follow found further := by
  induction route generalizing node with
  | nil => rfl
  | cons position route ih =>
    rw [List.cons_append, follow, follow]
    cases (heap.childrenOf node)[position]? with
    | none => rfl
    | some child => exact ih child

/-- The nodes that a reference leads to are those in the container. -/
theorem childrenOf_container (hc : heap[address]? = some cell) :
    heap.childrenOf (.container address) = cell.children := by
  rw [childrenOf, hc, Option.elim_some]

/-- A route through one of the nodes in a container. -/
theorem follow_cons_of_child (hc : (heap.childrenOf node)[position]? = some child)
    (route : List Nat) : heap.follow node (position :: route) = heap.follow child route := by
  rw [follow, hc, Option.bind_some]

/-- What a node refers to is there, and so is everything on its routes. -/
theorem Closed.holds_follow (h : heap.Closed) (hn : heap.Holds node)
    (hr : heap.follow node route = some found) : heap.Holds found := by
  induction route generalizing node with
  | nil => exact Option.some.inj hr ▸ hn
  | cons position route ih =>
    obtain ⟨child, hchild, hbelow⟩ := Option.bind_eq_some_iff.mp hr
    have hm := List.mem_of_getElem? hchild
    cases node with
    | container address =>
      rw [childrenOf, List.getElem?_eq_getElem (hn address rfl), Option.elim_some] at hm
      exact ih (h _ (List.getElem_mem _) child hm) hbelow
    | _ => cases hm

/-- What is reached twice from the end of a route is reached twice from its beginning. -/
theorem ReachedTwice.of_follow (hr : heap.follow node route = some found)
    (h : heap.ReachedTwice found) : heap.ReachedTwice node := by
  obtain ⟨address, below, other, hne, hb, ho⟩ := h
  refine ⟨address, route ++ below, route ++ other, fun he => hne (List.append_cancel_left he), ?_,
    ?_⟩
  · rw [follow_append, hr, Option.bind_some, hb]
  · rw [follow_append, hr, Option.bind_some, ho]

end Following

section Agreeing

/-- The containers on the routes from a node are the same in another heap. -/
def SameAlong (heap other : Heap) (node : Node) : Prop :=
  ∀ route address, heap.follow node route = some (.container address) →
    other[address]? = heap[address]?

theorem SameAlong.childrenOf_eq (h : heap.SameAlong other node) :
    other.childrenOf node = heap.childrenOf node := by
  cases node with
  | container address => rw [childrenOf, childrenOf, h [] address rfl]
  | _ => rfl

theorem SameAlong.below (h : heap.SameAlong other node)
    (hc : (heap.childrenOf node)[position]? = some child) : heap.SameAlong other child :=
  fun route address hr => h (position :: route) address ((follow_cons_of_child hc route).trans hr)

/-- The routes from the node lead to the same. -/
theorem SameAlong.follow_eq (h : heap.SameAlong other node) (route : List Nat) :
    other.follow node route = heap.follow node route := by
  induction route generalizing node with
  | nil => rfl
  | cons position route ih =>
    rw [follow, follow, h.childrenOf_eq]
    cases hc : (heap.childrenOf node)[position]? with
    | none => rfl
    | some child => exact ih (h.below hc)

/-- The node unfolds to the same tree. -/
theorem SameAlong.unfolds (h : heap.SameAlong other node) (hu : heap.Unfolds node tree) :
    other.Unfolds node tree := by
  induction hu with
  | null => exact .null
  | bool b => exact .bool b
  | number n => exact .number n
  | string s => exact .string s
  | function => exact .function
  | @array address items tree hc _ ih =>
    refine .array ((h [] address rfl).trans hc) fun node hm => ih node hm ?_
    obtain ⟨position, hp⟩ := List.getElem?_of_mem hm
    have hchild : (heap.childrenOf (.container address))[position]? = some node := by
      rwa [childrenOf_container hc]
    exact h.below hchild
  | @object address entries tree hc _ ih =>
    refine .object ((h [] address rfl).trans hc) fun entry hm => ih entry hm ?_
    obtain ⟨position, hp⟩ := List.getElem?_of_mem hm
    have hchild : (heap.childrenOf (.container address))[position]? = some entry.2 := by
      rw [childrenOf_container hc, Cell.children, List.getElem?_map, hp, Option.map_some]
    exact h.below hchild

/-- Several nodes unfold to the same trees. -/
theorem unfolds_each (h : List.Forall₂ heap.Unfolds nodes trees)
    (hsame : ∀ node ∈ nodes, heap.SameAlong other node) :
    List.Forall₂ other.Unfolds nodes trees := by
  refine ((List.forall₂_and_left _ _).mpr ⟨fun node hm => hm, h⟩).imp ?_
  exact fun node tree hu => (hsame node hu.1).unfolds hu.2

/-- A heap that was made longer is the same along the routes to what was there. -/
theorem sameAlong_of_longer (hp : heap <+: larger)
    (h : ∀ route address, heap.follow node route = some (.container address) →
      address < heap.length) : heap.SameAlong larger node := by
  intro route address hr
  obtain ⟨fresh, rfl⟩ := hp
  rw [List.getElem?_append_left (h route address hr)]

end Agreeing

section Planting

/-- The routes from one node are those from it alone among several. -/
theorem marks_of_singleton (h : Marks (heap.followAmong [node]) visited after) :
    Marks (heap.follow node) visited after := by
  have hlift : ∀ {route found}, heap.follow node route = some found →
      heap.followAmong [node] (0 :: route) = some found :=
    fun hr => followAmong_cons_eq_some_iff.mpr (.inl ⟨_, rfl, hr⟩)
  refine ⟨fun address => ?_, fun address hm route hr => h.fresh address hm _ (hlift hr),
    fun address route other hr ho => (List.cons.inj (h.unique address _ _ (hlift hr) (hlift ho))).2⟩
  rw [h.mem_iff]
  refine or_congr Iff.rfl ⟨fun ⟨route, hr⟩ => ?_, fun ⟨route, hr⟩ => ⟨_, hlift hr⟩⟩
  rcases followAmong_cons_eq_some_iff.mp hr with ⟨below, -, hb⟩ | ⟨_, below, -, hb⟩
  · exact ⟨below, hb⟩
  · simp [followAmong] at hb

/-- Nodes stand for trees in fresh containers: these are exactly the containers on the routes from
the nodes, each on one route. -/
structure Sown (heap larger : Heap) (nodes : List Node) (trees : List (Option Value)) : Prop where
  /-- What was there is still there. -/
  prefix_of : heap <+: larger
  /-- The nodes unfold to the trees. -/
  unfolds : List.Forall₂ larger.Unfolds nodes trees
  /-- The routes come to the fresh containers, and to each of them once. -/
  marks : Marks (larger.followAmong nodes) (List.range heap.length) (List.range larger.length)

namespace Sown

/-- The routes from the nodes stay among the containers of the heap. -/
theorem lt_length (h : heap.Sown larger nodes trees)
    (hr : larger.followAmong nodes route = some (.container address)) : address < larger.length :=
  List.mem_range.mp ((h.marks.mem_iff address).mpr (.inr ⟨route, hr⟩))

theorem nil (heap : Heap) : heap.Sown heap [] [] where
  prefix_of := List.prefix_refl heap
  unfolds := .nil
  marks := marks_nil _

theorem leaf (hn : heap.childrenOf node = []) (hleaf : ∀ address, node ≠ .container address)
    (hu : heap.Unfolds node tree) : heap.Sown heap [node] [tree] where
  prefix_of := List.prefix_refl heap
  unfolds := .cons hu .nil
  marks := (marks_leaf hn hleaf _).cons (marks_nil _)

/-- The node sown first sees nothing of what is sown behind it. -/
theorem sameAlong (h : heap.Sown middle [node] [tree]) (hp : middle <+: larger) :
    middle.SameAlong larger node :=
  sameAlong_of_longer hp fun route _ hr =>
    h.lt_length (followAmong_cons_eq_some_iff.mpr (.inl ⟨route, rfl, hr⟩))

/-- One node after another. -/
theorem cons (h : heap.Sown middle [node] [tree]) (hrest : middle.Sown larger rest trees) :
    heap.Sown larger (node :: rest) (tree :: trees) where
  prefix_of := h.prefix_of.trans hrest.prefix_of
  unfolds := by
    obtain ⟨hu, -⟩ := List.forall₂_cons.mp h.unfolds
    exact .cons ((h.sameAlong hrest.prefix_of).unfolds hu) hrest.unfolds
  marks := by
    have hsame : larger.follow node = middle.follow node :=
      funext (h.sameAlong hrest.prefix_of).follow_eq
    exact (hsame ▸ marks_of_singleton h.marks : Marks (larger.follow node) _ _).cons hrest.marks

/-- A fresh container for nodes that were sown. -/
theorem allocate (h : heap.Sown larger cell.children trees) :
    heap.Sown (larger.allocate cell).1 [(larger.allocate cell).2] [some (assemble trees cell)] := by
  have hp : larger <+: larger ++ [cell] := List.prefix_append larger [cell]
  have hc : (larger ++ [cell])[larger.length]? = some cell := by simp
  have hsame : ∀ child ∈ cell.children, larger.SameAlong (larger ++ [cell]) child := by
    intro child hm
    obtain ⟨position, hposition⟩ := List.getElem?_of_mem hm
    refine sameAlong_of_longer hp fun route address hr => ?_
    have hroute : larger.followAmong cell.children (position :: route) =
        some (.container address) := by
      rw [followAmong, hposition, Option.bind_some, hr]
    exact h.lt_length hroute
  have hroutes : (larger ++ [cell]).followAmong cell.children =
      larger.followAmong cell.children := by
    funext route
    cases route with
    | nil => rfl
    | cons position route =>
      rw [followAmong, followAmong]
      cases hposition : cell.children[position]? with
      | none => rfl
      | some child => exact (hsame child (List.mem_of_getElem? hposition)).follow_eq route
  have hunfolds : List.Forall₂ (Unfolds (larger ++ [cell])) cell.children trees :=
    unfolds_each h.unfolds hsame
  have hinside : Marks ((larger ++ [cell]).followAmong cell.children)
      (larger.length :: List.range heap.length) (List.range (larger ++ [cell]).length) := by
    rw [hroutes]
    refine ⟨fun address => ?_, fun address hm route hr => ?_, h.marks.unique⟩
    · have hmem := h.marks.mem_iff address
      rw [List.mem_range, List.mem_range] at hmem
      rw [List.mem_range, List.mem_cons, List.mem_range, List.length_append, List.length_singleton,
        Nat.lt_succ_iff_lt_or_eq, hmem, or_comm (a := address = larger.length), or_right_comm]
    · rcases List.mem_cons.mp hm with rfl | hm
      · exact absurd (h.lt_length hr) (Nat.lt_irrefl _)
      · exact h.marks.fresh address hm route hr
  have hnew : larger.length ∉ List.range heap.length := by
    rw [List.mem_range]
    exact Nat.not_lt.mpr h.prefix_of.length_le
  exact ⟨h.prefix_of.trans hp, .cons (unfolds_assemble hc hunfolds) .nil,
    (hinside.container hc hnew).cons (marks_nil _)⟩

end Sown

/-- The entries of an object keep their names. -/
theorem map_fst_ofEntries (heap : Heap) (entries : List (String × Value)) :
    (ofEntries heap entries).2.map Prod.fst = entries.map Prod.fst := by
  induction entries generalizing heap with
  | nil => rfl
  | cons entry rest ih => rw [ofEntries, List.map_cons, List.map_cons, ih]

/-- Entries are put together from their names and their values. -/
theorem assemble_of_names {nodes : List (String × Node)} {entries : List (String × Value)}
    (h : nodes.map Prod.fst = entries.map Prod.fst) :
    assemble (entries.map fun entry => some entry.2) (.object nodes) = .object entries := by
  rw [assemble]
  congr 1
  induction nodes generalizing entries with
  | nil =>
    rw [List.map_nil, eq_comm, List.map_eq_nil_iff] at h
    rw [h]
    rfl
  | cons node rest ih =>
    cases entries with
    | nil => cases h
    | cons entry entries =>
      obtain ⟨hname, hrest⟩ := List.cons.inj h
      simp only [List.map_cons, List.zipWith_cons_cons, Option.map_some, hname,
        List.reduceOption_cons_of_some, ih hrest]

mutual

theorem sown_ofValue (heap : Heap) : ∀ value : Value,
    heap.Sown (heap.ofValue value).1 [(heap.ofValue value).2] [some value]
  | .null => .leaf rfl (by simp [ofValue]) .null
  | .bool b => .leaf rfl (by simp [ofValue]) (.bool b)
  | .number n => .leaf rfl (by simp [ofValue]) (.number n)
  | .string s => .leaf rfl (by simp [ofValue]) (.string s)
  | .array items => by
    have hitems : heap.Sown _ (Cell.array (ofItems heap items).2).children _ :=
      sown_ofItems heap items
    have h := hitems.allocate
    rwa [assemble, List.reduceOption, List.filterMap_map, Function.id_comp,
      List.filterMap_some] at h
  | .object entries => by
    have hentries : heap.Sown _ (Cell.object (ofEntries heap entries).2).children _ :=
      sown_ofEntries heap entries
    have h := hentries.allocate
    rwa [assemble_of_names (map_fst_ofEntries heap entries)] at h

theorem sown_ofItems (heap : Heap) : ∀ items : List Value,
    heap.Sown (ofItems heap items).1 (ofItems heap items).2 (items.map some)
  | [] => .nil heap
  | item :: rest => by
    rw [ofItems]
    exact (sown_ofValue heap item).cons (sown_ofItems _ rest)

theorem sown_ofEntries (heap : Heap) : ∀ entries : List (String × Value),
    heap.Sown (ofEntries heap entries).1 ((ofEntries heap entries).2.map Prod.snd)
      (entries.map fun entry => some entry.2)
  | [] => .nil heap
  | (key, value) :: rest => by
    rw [ofEntries]
    exact (sown_ofValue heap value).cons (sown_ofEntries _ rest)

end

end Planting

section Copying

variable {start : Node} {copied : Value}

/-- A copy goes through exactly if nothing is reached twice, and gives the tree that the node
unfolds to. -/
theorem deepCopy_eq_some_iff (hclosed : heap.Closed) (hs : heap.Holds start) :
    heap.deepCopy start = some copied ↔
      ¬heap.ReachedTwice start ∧ ∃ tree, heap.Unfolds start tree ∧ copied = tree.getD .null := by
  rw [deepCopy]
  rcases copyNode_cases hclosed hs (Nat.lt_succ_self _) with
    ⟨htwice, hnone⟩ | ⟨hnot, tree, after, hu, hsome⟩
  · rw [hnone]
    exact iff_of_false (by simp) fun h => h.1 htwice
  · rw [hsome, Option.map_some, Option.some.injEq]
    constructor
    · rintro rfl
      exact ⟨hnot, tree, hu, rfl⟩
    · rintro ⟨-, other, ho, rfl⟩
      rw [hu.unique ho]

/-- No container is common to the routes from two nodes. -/
def SharesNothing (heap : Heap) (first second : Node) : Prop :=
  ∀ route other address, heap.follow first route = some (.container address) →
    heap.follow second other ≠ some (.container address)

/-- What a heap is after a value was put into it, with a node that stands for the value. -/
structure Planted (heap : Heap) (value : Value) (larger : Heap) (node : Node) : Prop where
  /-- What was there is still there. -/
  prefix_of : heap <+: larger
  /-- Exactly the fresh containers are reached from the node. -/
  fresh : ∀ address, (∃ route, larger.follow node route = some (.container address)) ↔
    heap.length ≤ address ∧ address < larger.length
  /-- None of them is reached by two routes. -/
  once : ¬larger.ReachedTwice node
  /-- The nodes that were there before lead to what they led to. -/
  kept : ∀ other, heap.Holds other → ∀ route, larger.follow other route = heap.follow other route
  /-- They share nothing with the node. -/
  apart : ∀ other, heap.Holds other → larger.SharesNothing other node
  /-- The copy of the node is the value. -/
  copy : larger.deepCopy node = some value

/-- Wherever a value is put, it is planted there. -/
theorem planted_ofValue (hclosed : heap.Closed) (value : Value) :
    heap.Planted value (heap.ofValue value).1 (heap.ofValue value).2 := by
  have hsown := sown_ofValue heap value
  have hextends := extends_ofValue heap value
  have hmarks := marks_of_singleton hsown.marks
  have honce := hmarks.not_reachedTwice
  obtain ⟨hu, -⟩ := List.forall₂_cons.mp hsown.unfolds
  have hfresh : ∀ address, (∃ route, (heap.ofValue value).1.follow (heap.ofValue value).2 route =
      some (.container address)) ↔
        heap.length ≤ address ∧ address < (heap.ofValue value).1.length := by
    refine fun address => ⟨fun ⟨route, hr⟩ => ⟨?_, ?_⟩, fun ⟨hge, hlt⟩ => ?_⟩
    · exact Nat.le_of_not_lt fun hlt => hmarks.fresh address (List.mem_range.mpr hlt) route hr
    · exact List.mem_range.mp ((hmarks.mem_iff address).mpr (.inr ⟨route, hr⟩))
    · refine ((hmarks.mem_iff address).mp (List.mem_range.mpr hlt)).resolve_left fun hm => ?_
      exact absurd (List.mem_range.mp hm) (Nat.not_lt.mpr hge)
  have hkept : ∀ other, heap.Holds other → ∀ route,
      (heap.ofValue value).1.follow other route = heap.follow other route :=
    fun other ho => (sameAlong_of_longer hsown.prefix_of fun route address hr =>
      hclosed.holds_follow ho hr address rfl).follow_eq
  refine ⟨hsown.prefix_of, hfresh, honce, hkept, fun other ho route below address hr hb => ?_, ?_⟩
  · rw [hkept other ho] at hr
    have hlt : address < heap.length := hclosed.holds_follow ho hr address rfl
    exact absurd ((hfresh address).mp ⟨below, hb⟩).1 (Nat.not_le.mpr hlt)
  · exact (deepCopy_eq_some_iff (hextends.closed hclosed)
      (hextends.holds hclosed _ List.mem_cons_self)).mpr ⟨honce, _, hu, rfl⟩

end Copying

end Heap

end ValidatedStore
