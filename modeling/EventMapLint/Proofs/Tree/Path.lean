import EventMapLint.Proofs.Tree.Children

/-! Places in a tree, as paths from its root, and the order in which the source has them. The list of all calls
names every place of a call once, in that order. -/

namespace EventMapLint

/-- The way to a node inside another: for each level the index of the child to go to. -/
abbrev Path := List Nat

/-- Source order: a node is before everything inside it, and all of one child is before all of a later one. -/
def Path.Before : Path → Path → Prop := List.Lex (· < ·)

theorem Path.Before.ne {path other : Path} (before : path.Before other) : path ≠ other := by
  induction before with
  | nil => simp
  | rel less => exact fun same => absurd (List.cons.inj same).1 (Nat.ne_of_lt less)
  | cons _ ih => exact fun same => ih (List.cons.inj same).2

namespace Node

/-- The node at the end of a path, if the path stays inside the tree. -/
def descend? (node : Node) : Path → Option Node
  | [] => some node
  | step :: path => node.children[step]?.bind (·.descend? path)

/-- The node at the end of a path whose first step picks one of several nodes. -/
def among? (nodes : List Node) : Path → Option Node
  | [] => none
  | step :: path => nodes[step]?.bind (·.descend? path)

theorem descend?_append (node : Node) (path more : Path) :
    node.descend? (path ++ more) = (node.descend? path).bind (·.descend? more) := by
  induction path generalizing node with
  | nil => rfl
  | cons step path ih =>
    simp only [List.cons_append, descend?, Option.bind_assoc]
    exact congrArg node.children[step]?.bind (funext fun child => ih child)

theorem among?_append (nodes : List Node) (step : Nat) (path more : Path) :
    among? nodes (step :: path ++ more) = (among? nodes (step :: path)).bind (·.descend? more) := by
  simp only [List.cons_append, among?, Option.bind_assoc]
  exact congrArg nodes[step]?.bind (funext fun node => descend?_append node path more)

end Node

/-- A list of all paths at which there is something, in source order, beside the list of what is there. -/
structure Enumerates (at? : Path → Option α) (paths : List Path) (items : List α) : Prop where
  ordered : paths.Pairwise Path.Before
  complete : ∀ path, (at? path).isSome → path ∈ paths
  located : paths.map at? = items.map some

namespace Enumerates

variable {at? : Path → Option α}

theorem mem_iff (listed : Enumerates at? paths items) (path : Path) :
    path ∈ paths ↔ ∃ item, at? path = some item := by
  constructor
  · intro member
    have found : at? path ∈ items.map some := listed.located ▸ List.mem_map_of_mem member
    obtain ⟨item, _, same⟩ := List.mem_map.mp found
    exact ⟨item, same.symm⟩
  · rintro ⟨item, found⟩
    exact listed.complete path (by simp [found])

theorem nodup (listed : Enumerates at? paths items) : paths.Nodup :=
  listed.ordered.imp fun before same => before.ne same

/-- Gathering something from all places is gathering it from all items. -/
theorem flatMap_eq (listed : Enumerates at? paths items) (gather : α → List β) :
    items.flatMap gather = paths.flatMap fun path => (at? path).elim [] gather := by
  have viaOption : (items.map some).flatMap (fun item => item.elim [] gather) =
      (paths.map at?).flatMap (fun item => item.elim [] gather) := by rw [listed.located]
  simpa [List.flatMap_map] using viaOption

end Enumerates

namespace Path

/-- The same path from among nodes that have one more node before them. -/
def shift : Path → Path
  | [] => []
  | step :: path => (step + 1) :: path

theorem Before.shift {path other : Path} (before : path.Before other) : path.shift.Before other.shift := by
  cases before with
  | nil => exact .nil
  | rel less => exact .rel (Nat.succ_lt_succ less)
  | cons before => exact .cons before

theorem Before.zero_shift {path other : Path} (inside : other ≠ []) : Before (0 :: path) other.shift := by
  cases other with
  | nil => exact absurd rfl inside
  | cons step other => exact .rel (Nat.succ_pos step)

end Path

namespace Enumerates

variable {pick : Node → Option α}

theorem ofNil : Enumerates (fun path => (Node.among? [] path).bind pick) [] [] where
  ordered := .nil
  complete := by
    intro path found
    cases path <;> simp [Node.among?] at found
  located := rfl

private theorem among?_zero (node : Node) (nodes : List Node) (path : Path) :
    Node.among? (node :: nodes) (0 :: path) = node.descend? path := rfl

private theorem among?_shift (node : Node) (nodes : List Node) (path : Path) :
    Node.among? (node :: nodes) path.shift = Node.among? nodes path := by
  cases path <;> rfl

private theorem ne_nil_of_among? {nodes : List Node} {path : Path} {item : α}
    (found : (Node.among? nodes path).bind pick = some item) : path ≠ [] := by
  rintro rfl
  simp [Node.among?] at found

/-- What several nodes hold is what the first one holds and then what the others hold. -/
theorem ofCons (first : Enumerates (fun path => (node.descend? path).bind pick) paths items)
    (others : Enumerates (fun path => (Node.among? nodes path).bind pick) morePaths moreItems) :
    Enumerates (fun path => (Node.among? (node :: nodes) path).bind pick)
      (paths.map (0 :: ·) ++ morePaths.map Path.shift) (items ++ moreItems) where
  ordered := by
    refine List.pairwise_append.mpr ⟨?_, ?_, ?_⟩
    · exact List.pairwise_map.mpr (first.ordered.imp fun before => .cons before)
    · exact List.pairwise_map.mpr (others.ordered.imp fun before => before.shift)
    · intro path member other otherMember
      obtain ⟨inner, _, rfl⟩ := List.mem_map.mp member
      obtain ⟨later, present, rfl⟩ := List.mem_map.mp otherMember
      obtain ⟨item, found⟩ := (others.mem_iff later).mp present
      exact .zero_shift (ne_nil_of_among? found)
  complete := by
    intro path found
    match path with
    | [] => simp [Node.among?] at found
    | 0 :: inner =>
      rw [among?_zero] at found
      exact List.mem_append_left _ (List.mem_map.mpr ⟨inner, first.complete inner found, rfl⟩)
    | (step + 1) :: inner =>
      have present := others.complete (step :: inner) (by simpa [Node.among?] using found)
      exact List.mem_append_right _ (List.mem_map.mpr ⟨step :: inner, present, rfl⟩)
  located := by
    simp only [List.map_append, List.map_map, ← first.located, ← others.located]
    congr 1
    exact List.map_congr_left fun path _ => by simp [among?_shift]

/-- What a node holds is what it is itself and then what its children hold. -/
theorem ofNode (inside : Enumerates (fun path => (Node.among? node.children path).bind pick) paths items) :
    Enumerates (fun path => (node.descend? path).bind pick)
      ((pick node).toList.map (fun _ => []) ++ paths) ((pick node).toList ++ items) where
  ordered := by
    refine List.pairwise_append.mpr ⟨?_, inside.ordered, ?_⟩
    · cases pick node <;> simp
    · intro path member other present
      obtain ⟨item, found⟩ := (inside.mem_iff other).mp present
      obtain ⟨_, _, rfl⟩ := List.mem_map.mp member
      cases other with
      | nil => simp [Node.among?] at found
      | cons step other => exact .nil
  complete := by
    intro path found
    cases path with
    | nil =>
      obtain ⟨item, self⟩ := Option.isSome_iff_exists.mp found
      have self : pick node = some item := self
      simp [self]
    | cons step path => exact List.mem_append_right _ (inside.complete (step :: path) found)
  located := by
    have same : paths.map (fun path => (node.descend? path).bind pick) = items.map some := by
      rw [← inside.located]
      refine List.map_congr_left fun path member => ?_
      obtain ⟨item, found⟩ := (inside.mem_iff path).mp member
      cases path with
      | nil => simp [Node.among?] at found
      | cons step path => rfl
    rw [List.map_append, List.map_append, same]
    cases self : pick node <;> simp [Node.descend?, self]

theorem exists_ofList {items : Node → List α} {nodes : List Node}
    (each : ∀ node ∈ nodes, ∃ paths, Enumerates (fun path => (node.descend? path).bind pick) paths (items node)) :
    ∃ paths, Enumerates (fun path => (Node.among? nodes path).bind pick) paths (nodes.flatMap items) := by
  induction nodes with
  | nil => exact ⟨[], .ofNil⟩
  | cons node nodes ih =>
    obtain ⟨paths, first⟩ := each node List.mem_cons_self
    obtain ⟨morePaths, others⟩ := ih fun other member => each other (List.mem_cons_of_mem node member)
    exact ⟨_, first.ofCons others⟩

end Enumerates

namespace Node

/-- Every place inside a node at which a call stands, once each and in source order, beside `Node.calls`. -/
theorem exists_enumerates_calls (node : Node) :
    ∃ paths, Enumerates (fun path => (node.descend? path).bind call?) paths node.calls := by
  induction node using children_induction with
  | step node ih =>
    obtain ⟨paths, inside⟩ := Enumerates.exists_ofList ih
    rw [calls_eq]
    exact ⟨_, inside.ofNode⟩

end Node

namespace Program

/-- The node at a path, whose first index picks a statement. -/
def node? (program : Program) (path : Path) : Option Node := Node.among? program.body path

/-- The call at a path, if the node there is one. -/
def call? (program : Program) (path : Path) : Option Call := (program.node? path).bind Node.call?

theorem node?_child {program : Program} {path : Path} {node : Node} (found : program.node? path = some node)
    (step : Nat) : program.node? (path ++ [step]) = node.children[step]? := by
  cases path with
  | nil => simp [node?, Node.among?] at found
  | cons first path =>
    rw [node?, Node.among?_append, ← node?, found]
    simp [Node.descend?]

theorem exists_enumerates_calls (program : Program) :
    ∃ paths, Enumerates program.call? paths program.calls := by
  rw [calls, Node.callsOfList_eq]
  exact Enumerates.exists_ofList fun node _ => node.exists_enumerates_calls

end Program

end EventMapLint
