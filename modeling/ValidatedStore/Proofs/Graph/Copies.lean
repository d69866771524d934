import Mathlib.Data.List.Perm.Subperm
import Mathlib.Data.List.ReduceOption
import ValidatedStore.Proofs.Graph.Heaps

/-!
# What a copy of a graph comes to

A copy follows every route from a node, and marks each container when it comes to it. It goes through
exactly if no container is reached by two routes. It then gives the tree that the node unfolds to,
and the marks are the containers on the routes, each marked once. A copy that fails has come to a
container that was marked before the copy began, or by another route. Since no mark is set twice,
the number of containers bounds how deep it goes, cycles or not. The inductions are on that depth,
and within it on the nodes in a container.
-/

namespace ValidatedStore

namespace Heap

variable {heap : Heap} {node start : Node} {nodes rest : List Node} {cell : Cell}
  {address fuel : Nat} {visited middle after : List Nat} {tree other : Option Value}
  {trees : List (Option Value)}

/-- The nodes in the container that a node refers to. -/
def childrenOf (heap : Heap) : Node → List Node
  | .container address => (heap[address]?).elim [] Cell.children
  | _ => []

/-- The node at the end of a route, which names the position of an entry at every step. -/
def follow (heap : Heap) : Node → List Nat → Option Node
  | node, [] => some node
  | node, position :: route =>
    ((heap.childrenOf node)[position]?).bind fun child => heap.follow child route

/-- The node at the end of a route that begins at one of several nodes. -/
def followAmong (heap : Heap) (nodes : List Node) : List Nat → Option Node
  | [] => none
  | position :: route => (nodes[position]?).bind fun node => heap.follow node route

/-- Some container is reached from a node by two different routes. -/
def ReachedTwice (heap : Heap) (node : Node) : Prop :=
  ∃ address route other, route ≠ other ∧ heap.follow node route = some (.container address) ∧
    heap.follow node other = some (.container address)

/-- The tree that a node unfolds to; a callable has none. Arrays skip callables, and objects leave
them out and keep the order of their entries. -/
inductive Unfolds (heap : Heap) : Node → Option Value → Prop
  | null : Unfolds heap .null (some .null)
  | bool (b : Bool) : Unfolds heap (.bool b) (some (.bool b))
  | number (n : Number) : Unfolds heap (.number n) (some (.number n))
  | string (s : String) : Unfolds heap (.string s) (some (.string s))
  | function : Unfolds heap .function none
  | array {address : Nat} {items : List Node} {tree : Node → Option Value}
      (hc : heap[address]? = some (.array items))
      (hi : ∀ node ∈ items, Unfolds heap node (tree node)) :
      Unfolds heap (.container address) (some (.array (items.filterMap tree)))
  | object {address : Nat} {entries : List (String × Node)} {tree : Node → Option Value}
      (hc : heap[address]? = some (.object entries))
      (he : ∀ entry ∈ entries, Unfolds heap entry.2 (tree entry.2)) :
      Unfolds heap (.container address)
        (some (.object (entries.filterMap fun entry => (tree entry.2).map (entry.1, ·))))

/-- A node unfolds to one tree at most. -/
theorem Unfolds.unique (h : heap.Unfolds node tree) (ho : heap.Unfolds node other) :
    tree = other := by
  induction h generalizing other with
  | null => cases ho; rfl
  | bool b => cases ho; rfl
  | number n => cases ho; rfl
  | string s => cases ho; rfl
  | function => cases ho; rfl
  | @array address items tree hc hi ih =>
    cases ho with
    | @array _ items' tree' hc' hi' =>
      obtain rfl := Cell.array.inj (Option.some.inj (hc.symm.trans hc'))
      congr 2
      exact List.filterMap_congr fun node hm => ih node hm (hi' node hm)
    | object hc' _ => cases hc.symm.trans hc'
  | @object address entries tree hc he ih =>
    cases ho with
    | array hc' _ => cases hc.symm.trans hc'
    | @object _ entries' tree' hc' he' =>
      obtain rfl := Cell.object.inj (Option.some.inj (hc.symm.trans hc'))
      congr 2
      exact List.filterMap_congr fun entry hm => by rw [ih entry hm (he' entry hm)]

/-- The trees of several nodes are given by one function. -/
theorem exists_tree (h : List.Forall₂ heap.Unfolds nodes trees) :
    ∃ tree : Node → Option Value, trees = nodes.map tree ∧
      ∀ node ∈ nodes, heap.Unfolds node (tree node) := by
  have hone : ∀ node, ∃ tree, ∀ found, heap.Unfolds node found → tree = found := by
    intro node
    by_cases hfound : ∃ found, heap.Unfolds node found
    · obtain ⟨tree, htree⟩ := hfound
      exact ⟨tree, fun found => htree.unique⟩
    · exact ⟨none, fun found hf => absurd ⟨found, hf⟩ hfound⟩
  choose tree htree using hone
  refine ⟨tree, ?_⟩
  induction h with
  | nil => simp
  | @cons node found nodes trees hfirst _ ih =>
    obtain rfl := htree node found hfirst
    exact ⟨by rw [ih.1, List.map_cons], List.forall_mem_cons.mpr ⟨hfirst, ih.2⟩⟩

/-- Copy nodes one after another, keeping a place for those that have no value. -/
def copyEach (copy : Node → List Nat → Option (Option Value × List Nat)) :
    List Node → List Nat → Option (List (Option Value) × List Nat)
  | [], visited => some ([], visited)
  | node :: rest, visited =>
    (copy node visited).bind fun first =>
      (copyEach copy rest first.2).map fun others => (first.1 :: others.1, others.2)

/-- The value of a container, from the trees of the nodes in it. -/
def assemble (trees : List (Option Value)) : Cell → Value
  | .array _ => .array trees.reduceOption
  | .object entries =>
    .object (List.zipWith (fun entry tree => tree.map (entry.1, ·)) entries trees).reduceOption

section Copying

variable (copy : Node → List Nat → Option (Option Value × List Nat))

theorem copyItems_eq (nodes : List Node) (visited : List Nat) :
    copyItems copy nodes visited =
      (copyEach copy nodes visited).map fun copied => (copied.1.reduceOption, copied.2) := by
  induction nodes generalizing visited with
  | nil => rfl
  | cons node rest ih =>
    rw [copyItems, copyEach]
    cases copy node visited with
    | none => rfl
    | some first =>
      obtain ⟨tree, middle⟩ := first
      simp only [Option.bind_eq_bind, Option.bind_some, ih]
      cases copyEach copy rest middle with
      | none => rfl
      | some others => cases tree <;> rfl

theorem copyEntries_eq (entries : List (String × Node)) (visited : List Nat) :
    copyEntries copy entries visited =
      (copyEach copy (entries.map Prod.snd) visited).map fun copied =>
        ((List.zipWith (fun entry tree => tree.map (entry.1, ·)) entries copied.1).reduceOption,
          copied.2) := by
  induction entries generalizing visited with
  | nil => rfl
  | cons entry rest ih =>
    rw [copyEntries, List.map_cons, copyEach]
    cases copy entry.2 visited with
    | none => rfl
    | some first =>
      obtain ⟨tree, middle⟩ := first
      simp only [Option.bind_eq_bind, Option.bind_some, ih]
      cases copyEach copy (rest.map Prod.snd) middle with
      | none => rfl
      | some others => cases tree <;> rfl

end Copying

/-- A container that is not marked yet is marked, and the nodes in it are copied. -/
theorem copyNode_container (hc : heap[address]? = some cell) (hv : address ∉ visited) :
    copyNode heap (fuel + 1) (.container address) visited =
      (copyEach (copyNode heap fuel) cell.children (address :: visited)).map fun copied =>
        (some (assemble copied.1 cell), copied.2) := by
  have hnew : visited.contains address = false := by simpa using hv
  rw [copyNode, hnew, hc]
  cases cell with
  | array items =>
    simp only [Bool.false_eq_true, if_false, copyItems_eq, Option.bind_eq_bind, Option.bind_map,
      Cell.children]
    cases copyEach (copyNode heap fuel) items (address :: visited) <;> rfl
  | object entries =>
    simp only [Bool.false_eq_true, if_false, copyEntries_eq, Option.bind_eq_bind, Option.bind_map,
      Cell.children]
    cases copyEach (copyNode heap fuel) (entries.map Prod.snd) (address :: visited) <;> rfl

/-- A container unfolds to what is assembled from the trees of the nodes in it. -/
theorem unfolds_assemble (hc : heap[address]? = some cell)
    (ht : List.Forall₂ heap.Unfolds cell.children trees) :
    heap.Unfolds (.container address) (some (assemble trees cell)) := by
  obtain ⟨tree, rfl, hunfolds⟩ := exists_tree ht
  cases cell with
  | array items =>
    have h := Unfolds.array hc hunfolds
    rwa [assemble, Cell.children, List.reduceOption, List.filterMap_map]
  | object entries =>
    have hentries : ∀ entry ∈ entries, heap.Unfolds entry.2 (tree entry.2) :=
      fun entry hm => hunfolds _ (List.mem_map_of_mem hm)
    have h := Unfolds.object hc hentries
    rwa [assemble, Cell.children, List.map_map, List.zipWith_map_right, List.zipWith_self,
      List.reduceOption, List.filterMap_map]

/-- The containers at the ends of some routes are marked, each of them by one route only, and none of
them before. -/
structure Marks (routes : List Nat → Option Node) (visited after : List Nat) : Prop where
  /-- Exactly the containers on the routes come to what is marked. -/
  mem_iff : ∀ address, address ∈ after ↔
    address ∈ visited ∨ ∃ route, routes route = some (.container address)
  /-- No route leads to what was marked before. -/
  fresh : ∀ address ∈ visited, ∀ route, routes route ≠ some (.container address)
  /-- No two routes lead to one container. -/
  unique : ∀ address route other, routes route = some (.container address) →
    routes other = some (.container address) → route = other

/-- A route leads to a container that was marked before, or two routes lead to one container. -/
inductive Meets (routes : List Nat → Option Node) (visited : List Nat) : Prop
  /-- The container was marked before. -/
  | marked {address : Nat} {route : List Nat} (hm : address ∈ visited)
      (hr : routes route = some (.container address)) : Meets routes visited
  /-- The container is on two routes. -/
  | twice {address : Nat} {route other : List Nat} (hne : route ≠ other)
      (hr : routes route = some (.container address))
      (ho : routes other = some (.container address)) : Meets routes visited

/-- There are fewer containers than the marks and the depth that is left: a copy that marks every
container it goes into cannot go deeper. -/
structure Room (heap : Heap) (fuel : Nat) (visited : List Nat) : Prop where
  /-- No mark is set twice. -/
  nodup : visited.Nodup
  /-- The marked containers are there. -/
  lt : ∀ address ∈ visited, address < heap.length
  /-- The depth that is left suffices for the containers that are not marked. -/
  length_lt : heap.length < fuel + visited.length

/-- What copying comes to: to something good, with the containers on the routes marked, or to a
container that was marked. -/
inductive Copies (heap : Heap) {α : Type} (good : α → Prop) (routes : List Nat → Option Node)
    (fuel : Nat) (visited : List Nat) : Option (α × List Nat) → Prop
  /-- The copy goes through. -/
  | done {result : α} {after : List Nat} (hg : good result) (hm : Marks routes visited after)
      (hr : heap.Room fuel after) : Copies heap good routes fuel visited (some (result, after))
  /-- The copy fails. -/
  | failed (hm : Meets routes visited) : Copies heap good routes fuel visited none

/-- Some depth is left as long as a container is not marked. -/
theorem Room.fuel_pos (h : heap.Room fuel visited) : 0 < fuel := by
  have hsub : visited ⊆ List.range heap.length := fun address hm =>
    List.mem_range.mpr (h.lt address hm)
  have hle := (h.nodup.subperm hsub).length_le
  rw [List.length_range] at hle
  have := h.length_lt
  omega

/-- A step down marks a container and takes one off the depth. -/
theorem Room.mark (h : heap.Room (fuel + 1) visited) (hc : heap[address]? = some cell)
    (hv : address ∉ visited) : heap.Room fuel (address :: visited) where
  nodup := List.nodup_cons.mpr ⟨hv, h.nodup⟩
  lt other hm := by
    rcases List.mem_cons.mp hm with rfl | hm
    · exact (List.getElem?_eq_some_iff.mp hc).1
    · exact h.lt other hm
  length_lt := by
    have := h.length_lt
    simp only [List.length_cons]
    omega

theorem Room.succ (h : heap.Room fuel visited) : heap.Room (fuel + 1) visited where
  nodup := h.nodup
  lt := h.lt
  length_lt := by
    have := h.length_lt
    omega

/-- A leaf has no container on its routes. -/
theorem marks_leaf (hn : heap.childrenOf node = []) (hleaf : ∀ address, node ≠ .container address)
    (visited : List Nat) : Marks (heap.follow node) visited visited := by
  have hno : ∀ address route, heap.follow node route ≠ some (.container address) := by
    intro address route
    cases route with
    | nil => simpa [follow] using hleaf address
    | cons position route => simp [follow, hn]
  refine ⟨fun address => ?_, fun address _ => hno address, fun address route other hr _ =>
    absurd hr (hno address route)⟩
  simp [hno]

/-- There are no routes from no nodes. -/
theorem marks_nil (visited : List Nat) : Marks (heap.followAmong []) visited visited := by
  have hno : ∀ route, heap.followAmong [] route = none := by
    intro route
    cases route <;> simp [followAmong]
  refine ⟨fun address => ?_, fun address _ route => ?_, fun address route other hr => ?_⟩ <;>
    simp_all

/-- A route from several nodes begins at the first of them or at one of the others. -/
theorem followAmong_cons_eq_some_iff {route : List Nat} {found : Node} :
    heap.followAmong (node :: rest) route = some found ↔
      (∃ below, route = 0 :: below ∧ heap.follow node below = some found) ∨
        ∃ position below, route = (position + 1) :: below ∧
          heap.followAmong rest (position :: below) = some found := by
  cases route with
  | nil => simp [followAmong]
  | cons position route => cases position <;> simp [followAmong]

/-- A route from a container ends there or begins at one of the nodes in it. -/
theorem follow_container_eq_some_iff {route : List Nat} {found : Node}
    (hc : heap[address]? = some cell) :
    heap.follow (.container address) route = some found ↔
      route = [] ∧ found = .container address ∨
        heap.followAmong cell.children route = some found := by
  cases route with
  | nil => simp [follow, followAmong, eq_comm]
  | cons position route => simp [follow, followAmong, childrenOf, hc]

/-- The same route, with one more node in front. -/
def behind : List Nat → List Nat
  | [] => []
  | position :: route => (position + 1) :: route

theorem followAmong_behind {route : List Nat} {found : Node}
    (h : heap.followAmong rest route = some found) :
    heap.followAmong (node :: rest) (behind route) = some found := by
  cases route with
  | nil => cases h
  | cons position below =>
    exact followAmong_cons_eq_some_iff.mpr (.inr ⟨position, below, rfl, h⟩)

theorem behind_injective : Function.Injective behind := by
  intro route other he
  cases route <;> cases other <;> simp_all [behind]

/-- First the routes from one node are marked, then those from the others. -/
theorem Marks.cons (h : Marks (heap.follow node) visited middle)
    (hrest : Marks (heap.followAmong rest) middle after) :
    Marks (heap.followAmong (node :: rest)) visited after where
  mem_iff address := by
    rw [hrest.mem_iff, h.mem_iff, or_assoc]
    refine or_congr Iff.rfl ⟨?_, ?_⟩
    · rintro (⟨route, hr⟩ | ⟨route, hr⟩)
      · exact ⟨_, followAmong_cons_eq_some_iff.mpr (.inl ⟨route, rfl, hr⟩)⟩
      · exact ⟨_, followAmong_behind hr⟩
    · rintro ⟨route, hr⟩
      rcases followAmong_cons_eq_some_iff.mp hr with ⟨below, rfl, hb⟩ | ⟨position, below, rfl, hb⟩
      · exact .inl ⟨below, hb⟩
      · exact .inr ⟨_, hb⟩
  fresh address hm route hr := by
    rcases followAmong_cons_eq_some_iff.mp hr with ⟨below, rfl, hb⟩ | ⟨position, below, rfl, hb⟩
    · exact h.fresh address hm below hb
    · exact hrest.fresh address ((h.mem_iff address).mpr (.inl hm)) _ hb
  unique address route other hr ho := by
    -- What the first node leads to is marked by then, and the others lead to none of it.
    have hapart : ∀ below, heap.follow node below = some (.container address) →
        ∀ route, heap.followAmong rest route ≠ some (.container address) :=
      fun below hb => hrest.fresh address ((h.mem_iff address).mpr (.inr ⟨below, hb⟩))
    rcases followAmong_cons_eq_some_iff.mp hr with ⟨below, rfl, hb⟩ | ⟨position, below, rfl, hb⟩ <;>
      rcases followAmong_cons_eq_some_iff.mp ho with ⟨below', rfl, hb'⟩ | ⟨position', below', rfl, hb'⟩
    · rw [h.unique address below below' hb hb']
    · exact absurd hb' (hapart below hb _)
    · exact absurd hb (hapart below' hb' _)
    · obtain ⟨rfl, rfl⟩ := List.cons.inj (hrest.unique address _ _ hb hb')
      rfl

/-- A container is marked, and then the routes from the nodes in it. -/
theorem Marks.container (hc : heap[address]? = some cell) (hv : address ∉ visited)
    (h : Marks (heap.followAmong cell.children) (address :: visited) after) :
    Marks (heap.follow (.container address)) visited after where
  mem_iff found := by
    rw [h.mem_iff, List.mem_cons, or_comm (a := found = address), or_assoc]
    simp only [follow_container_eq_some_iff hc, Node.container.injEq]
    refine or_congr Iff.rfl ⟨?_, ?_⟩
    · rintro (he | ⟨route, hr⟩)
      · exact ⟨[], .inl ⟨rfl, he⟩⟩
      · exact ⟨route, .inr hr⟩
    · rintro ⟨route, ⟨-, he⟩ | hr⟩
      · exact .inl he
      · exact .inr ⟨route, hr⟩
  fresh found hm route hr := by
    rcases (follow_container_eq_some_iff hc).mp hr with ⟨-, he⟩ | hr
    · exact hv (Node.container.inj he ▸ hm)
    · exact h.fresh found (List.mem_cons_of_mem _ hm) route hr
  unique found route other hr ho := by
    -- No route leads back to the container, since it was marked first.
    have hback : ∀ {found}, found = Node.container address →
        ∀ route, heap.followAmong cell.children route ≠ some found :=
      fun he => he ▸ h.fresh address List.mem_cons_self
    rcases (follow_container_eq_some_iff hc).mp hr with ⟨rfl, he⟩ | hr <;>
      rcases (follow_container_eq_some_iff hc).mp ho with ⟨rfl, he'⟩ | ho
    · rfl
    · exact absurd ho (hback he other)
    · exact absurd hr (hback he' route)
    · exact h.unique found route other hr ho

/-- What is met on some routes is met where they go on from other routes. -/
theorem Meets.map {routes further : List Nat → Option Node} (h : Meets routes visited)
    (extend : List Nat → List Nat) (hinj : Function.Injective extend)
    (hfurther : ∀ route found, routes route = some found → further (extend route) = some found) :
    Meets further visited := by
  cases h with
  | marked hm hr => exact .marked hm (hfurther _ _ hr)
  | twice hne hr ho => exact .twice (hinj.ne hne) (hfurther _ _ hr) (hfurther _ _ ho)

/-- What is met from the first node is met. -/
theorem Meets.cons_left (h : Meets (heap.follow node) visited) :
    Meets (heap.followAmong (node :: rest)) visited :=
  h.map (0 :: ·) List.cons_injective fun route _ hr =>
    followAmong_cons_eq_some_iff.mpr (.inl ⟨route, rfl, hr⟩)

/-- What is met from the others, after the first node was copied, is met. -/
theorem Meets.cons_right (h : Marks (heap.follow node) visited middle)
    (hmeets : Meets (heap.followAmong rest) middle) :
    Meets (heap.followAmong (node :: rest)) visited := by
  cases hmeets with
  | @marked address route hm hr =>
    rcases (h.mem_iff address).mp hm with hm | ⟨first, hfirst⟩
    · exact .marked hm (followAmong_behind hr)
    · -- The container was marked on the way from the first node, so that two routes lead to it.
      refine .twice (fun he => ?_)
        (followAmong_cons_eq_some_iff.mpr (.inl ⟨first, rfl, hfirst⟩)) (followAmong_behind hr)
      cases route <;> cases he
  | twice hne hr ho =>
    exact .twice (behind_injective.ne hne) (followAmong_behind hr) (followAmong_behind ho)

/-- What is met in a container, after it was marked, is met. -/
theorem Meets.container (hc : heap[address]? = some cell)
    (h : Meets (heap.followAmong cell.children) (address :: visited)) :
    Meets (heap.follow (.container address)) visited := by
  have hlift : ∀ {route found}, heap.followAmong cell.children route = some found →
      heap.follow (.container address) route = some found :=
    fun hr => (follow_container_eq_some_iff hc).mpr (.inr hr)
  cases h with
  | @marked found route hm hr =>
    rcases List.mem_cons.mp hm with rfl | hm
    · -- The route leads back to the container itself.
      have hself : heap.follow (.container found) [] = some (.container found) := rfl
      refine .twice (fun he => ?_) hself (hlift hr)
      subst he
      cases hr
    · exact .marked hm (hlift hr)
  | twice hne hr ho => exact .twice hne (hlift hr) (hlift ho)

/-- Nodes are copied one after another, if each of them is. -/
theorem copies_copyEach {copy : Node → List Nat → Option (Option Value × List Nat)}
    (hcopy : ∀ node ∈ nodes, ∀ visited, heap.Room fuel visited →
      heap.Copies (heap.Unfolds node) (heap.follow node) fuel visited (copy node visited))
    (hr : heap.Room fuel visited) :
    heap.Copies (List.Forall₂ heap.Unfolds nodes) (heap.followAmong nodes) fuel visited
      (copyEach copy nodes visited) := by
  induction nodes generalizing visited with
  | nil => exact .done .nil (marks_nil visited) hr
  | cons node rest ih =>
    have hfirst := hcopy node List.mem_cons_self visited hr
    rw [copyEach]
    generalize copy node visited = first at hfirst ⊢
    cases hfirst with
    | failed hmeets => exact .failed hmeets.cons_left
    | @done tree middle hg hm hmiddle =>
      have hothers := ih (fun other ho => hcopy other (List.mem_cons_of_mem _ ho)) hmiddle
      rw [Option.bind_some]
      generalize copyEach copy rest middle = others at hothers ⊢
      cases hothers with
      | failed hmeets => exact .failed (hmeets.cons_right hm)
      | done hgs hms hafter => exact .done (.cons hg hgs) (hm.cons hms) hafter

/-- A node is copied to the tree that it unfolds to, unless a container is met that was marked. -/
theorem copies_copyNode (hclosed : heap.Closed) (hn : heap.Holds node)
    (hr : heap.Room fuel visited) :
    heap.Copies (heap.Unfolds node) (heap.follow node) fuel visited
      (copyNode heap fuel node visited) := by
  induction fuel generalizing node visited with
  | zero => exact absurd hr.fuel_pos (Nat.lt_irrefl 0)
  | succ fuel ih =>
    cases node with
    | null => exact .done .null (marks_leaf rfl (by simp) visited) hr
    | bool b => exact .done (.bool b) (marks_leaf rfl (by simp) visited) hr
    | number n => exact .done (.number n) (marks_leaf rfl (by simp) visited) hr
    | string s => exact .done (.string s) (marks_leaf rfl (by simp) visited) hr
    | function => exact .done .function (marks_leaf rfl (by simp) visited) hr
    | container address =>
      by_cases hv : address ∈ visited
      · have hmarked : visited.contains address = true := by simpa using hv
        have hself : heap.follow (.container address) [] = some (.container address) := rfl
        rw [copyNode, hmarked, if_pos rfl]
        exact .failed (.marked hv hself)
      · obtain ⟨cell, hc⟩ : ∃ cell, heap[address]? = some cell :=
          ⟨_, List.getElem?_eq_getElem (hn address rfl)⟩
        have hchildren : ∀ child ∈ cell.children, ∀ visited, heap.Room fuel visited →
            heap.Copies (heap.Unfolds child) (heap.follow child) fuel visited
              (copyNode heap fuel child visited) :=
          fun child hm visited hr => ih (hclosed.holds hc child hm) hr
        have hinside := copies_copyEach hchildren (hr.mark hc hv)
        rw [copyNode_container hc hv]
        generalize copyEach (copyNode heap fuel) cell.children (address :: visited) = copied
          at hinside ⊢
        cases hinside with
        | failed hmeets => exact .failed (hmeets.container hc)
        | done hg hm hafter => exact .done (unfolds_assemble hc hg) (hm.container hc hv) hafter.succ

/-- At first nothing is marked, and any depth above the number of containers is enough. -/
theorem room_nil (h : heap.length < fuel) : heap.Room fuel [] where
  nodup := List.nodup_nil
  lt := by simp
  length_lt := by simpa using h

theorem reachedTwice_iff_meets : heap.ReachedTwice node ↔ Meets (heap.follow node) [] := by
  constructor
  · rintro ⟨address, route, other, hne, hr, ho⟩
    exact .twice hne hr ho
  · rintro (⟨hm, _⟩ | ⟨hne, hr, ho⟩)
    · cases hm
    · exact ⟨_, _, _, hne, hr, ho⟩

theorem Marks.not_reachedTwice (h : Marks (heap.follow node) visited after) :
    ¬heap.ReachedTwice node := by
  rintro ⟨address, route, other, hne, hr, ho⟩
  exact hne (h.unique address route other hr ho)

/-- At any depth above the number of containers, a node of which no container is reached twice is
copied to its tree, and the copy of any other node fails. -/
theorem copyNode_cases (hclosed : heap.Closed) (hs : heap.Holds start) (hf : heap.length < fuel) :
    (heap.ReachedTwice start ∧ copyNode heap fuel start [] = none) ∨
      ¬heap.ReachedTwice start ∧ ∃ tree after, heap.Unfolds start tree ∧
        copyNode heap fuel start [] = some (tree, after) := by
  have hcopies := copies_copyNode hclosed hs (room_nil hf)
  generalize copyNode heap fuel start [] = copied at hcopies ⊢
  cases hcopies with
  | failed hm => exact .inl ⟨reachedTwice_iff_meets.mpr hm, rfl⟩
  | @done tree after hg hm _ => exact .inr ⟨hm.not_reachedTwice, tree, after, hg, rfl⟩

/-- In a heap that the operations built, the copy of a node fails exactly if some container is reached
from it by two different routes. Otherwise it gives the one tree that the node unfolds to, and null
for a callable. Allowing the copy to go deeper than the number of containers makes no difference. -/
theorem deepCopy_exact (hb : heap.Built) (hs : heap.Holds start) :
    (heap.deepCopy start = none ↔ heap.ReachedTwice start) ∧
      (¬heap.ReachedTwice start → ∃ tree, heap.Unfolds start tree ∧
        (∀ other, heap.Unfolds start other → other = tree) ∧
        heap.deepCopy start = some (tree.getD .null)) ∧
      ∀ fuel, heap.length < fuel →
        (copyNode heap fuel start []).map (fun copied => copied.1.getD .null) =
          heap.deepCopy start := by
  have hcases := fun fuel (hf : heap.length < fuel) => copyNode_cases hb.closed hs hf
  rcases hcases (heap.length + 1) (Nat.lt_succ_self _) with
    ⟨htwice, hnone⟩ | ⟨hnot, tree, after, hu, hsome⟩
  · have hcopy : heap.deepCopy start = none := by rw [deepCopy, hnone]; rfl
    refine ⟨iff_of_true hcopy htwice, fun h => absurd htwice h, fun fuel hf => ?_⟩
    rcases hcases fuel hf with ⟨_, hnone'⟩ | ⟨hnot, _⟩
    · rw [hnone', hcopy]
      rfl
    · exact absurd htwice hnot
  · have hcopy : heap.deepCopy start = some (tree.getD .null) := by rw [deepCopy, hsome]; rfl
    refine ⟨iff_of_false (by simp [hcopy]) hnot,
      fun _ => ⟨tree, hu, fun other ho => ho.unique hu, hcopy⟩, fun fuel hf => ?_⟩
    rcases hcases fuel hf with ⟨htwice, _⟩ | ⟨_, tree', after', hu', hsome'⟩
    · exact absurd htwice hnot
    · rw [hsome', hcopy, hu'.unique hu]
      rfl

/-- A copy leaves callables out, also of an array. Once the object is an entry of itself, it is
reached twice and cannot be copied. -/
theorem deepCopy_exact_of_self :
    ∃ (heap changed : Heap) (start : Node), heap.Built ∧ heap.Holds start ∧
      heap.deepCopy start = some (.object [("list", .array [.null, .bool true])]) ∧
      ¬heap.ReachedTwice start ∧
      (∃ tree, heap.Unfolds start tree ∧ (∀ other, heap.Unfolds start other → other = tree) ∧
        heap.deepCopy start = some (tree.getD .null)) ∧
      heap.insert? start "self" start = some changed ∧ changed.Built ∧ changed.Holds start ∧
      changed.deepCopy start = none ∧ changed.ReachedTwice start := by
  let list : List Node := [.null, .function, .bool true]
  let heap : Heap := [.object [("list", .container 1), ("call", .function)], .array list]
  let changed : Heap :=
    [.object [("list", .container 1), ("call", .function), ("self", .container 0)], .array list]
  have hleaf : ∀ {heap : Heap} {node}, (∀ address, node ≠ .container address) →
      heap.Holds node := fun hn address he => absurd he (hn address)
  have hholds : ∀ {heap : Heap} {address}, address < heap.length →
      heap.Holds (.container address) := fun hlt other he => Node.container.inj he ▸ hlt
  have hnull : Built [.object [], .array [.null]] := by
    refine .push (.array (.object .empty)) ?_ (rfl : Heap.push? _ (.container 1) .null = _)
    exact hleaf (by simp)
  have hcallable : Built [.object [], .array [.null, .function]] := by
    refine .push hnull ?_ (rfl : Heap.push? _ (.container 1) .function = _)
    exact hleaf (by simp)
  have hlist : Built [.object [], .array list] := by
    refine .push hcallable ?_ (rfl : Heap.push? _ (.container 1) (.bool true) = _)
    exact hleaf (by simp)
  have hentry : Built [.object [("list", .container 1)], .array list] := by
    refine .insert hlist ?_ (rfl : Heap.insert? _ (.container 0) "list" (.container 1) = _)
    exact hholds (by decide)
  have hheap : heap.Built := by
    refine .insert hentry ?_ (rfl : Heap.insert? _ (.container 0) "call" .function = _)
    exact hleaf (by simp)
  have hstart : heap.Holds (.container 0) := hholds (by decide)
  have hinsert : heap.insert? (.container 0) "self" (.container 0) = some changed := rfl
  have hchanged : changed.Built := .insert hheap hstart hinsert
  have hself : changed.Holds (.container 0) := hholds (by decide)
  have hcopy : heap.deepCopy (.container 0) =
      some (.object [("list", .array [.null, .bool true])]) := rfl
  have hrefused : changed.deepCopy (.container 0) = none := rfl
  obtain ⟨hnone, htree, -⟩ := deepCopy_exact hheap hstart
  have honce : ¬heap.ReachedTwice (.container 0) := by
    rw [← hnone, hcopy]
    exact Option.some_ne_none _
  exact ⟨heap, changed, .container 0, hheap, hstart, hcopy, honce, htree honce, hinsert, hchanged,
    hself, hrefused, (deepCopy_exact hchanged hself).1.mp hrefused⟩

end Heap

end ValidatedStore
