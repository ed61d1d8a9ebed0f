import Mathlib.Data.List.Nodup
import Mathlib.Data.List.Flatten
import Mathlib.Logic.Relation

/-! Depth-first search splits a finite undirected graph into its connected components. -/

namespace Pocketdex

/-- A finite graph whose links run both ways and stay inside its nodes. -/
structure UndirectedGraph (ν : Type) where
  nodes : List ν
  neighbors : ν → List ν
  closed : ∀ node ∈ nodes, ∀ other ∈ neighbors node, other ∈ nodes
  symmetric : ∀ node other, other ∈ neighbors node → node ∈ neighbors other

/-- What a search has visited so far, and the component it is collecting. -/
structure Search (ν : Type) where
  visited : List ν
  component : List ν

namespace UndirectedGraph

variable {ν : Type} (graph : UndirectedGraph ν)

section

variable [DecidableEq ν]

/-- Visiting a node records it and then visits its neighbors, at most fuel levels deep. -/
def visit : Nat → Search ν → ν → Search ν
  | 0, search, _ => search
  | fuel + 1, search, node =>
    if node ∈ search.visited then search
    else (graph.neighbors node).foldl (visit fuel)
      ⟨search.visited ++ [node], search.component ++ [node]⟩

/-- Every node not visited yet starts a component of its own. -/
def components : List (List ν) :=
  (graph.nodes.foldl (fun (visited, found) node =>
    if node ∈ visited then (visited, found)
    else
      let search := graph.visit (graph.nodes.length + 1) ⟨visited, []⟩ node
      (search.visited, found ++ [search.component])) ([], [])).2

end

/-- Two nodes are connected when a chain of links leads from one to the other. -/
def Connected : ν → ν → Prop :=
  Relation.ReflTransGen fun node other => other ∈ graph.neighbors node

/-- Connection can be walked in either direction. -/
theorem Connected.symm {graph : UndirectedGraph ν} {node other : ν}
    (linked : graph.Connected node other) : graph.Connected other node := by
  -- The last link of the walk becomes the first one of the way back.
  induction linked with
  | refl => exact Relation.ReflTransGen.refl
  | tail _ link ih => exact Relation.ReflTransGen.head (graph.symmetric _ _ link) ih

/-- Nodes connected to a node of the graph belong to the graph. -/
theorem Connected.mem_nodes {graph : UndirectedGraph ν} {node other : ν}
    (linked : graph.Connected node other) (inside : node ∈ graph.nodes) : other ∈ graph.nodes := by
  induction linked with
  | refl => exact inside
  | tail _ link ih => exact graph.closed _ ih _ link

/-- A division of the graph's nodes into its classes of connected nodes. -/
structure IsPartition (parts : List (List ν)) : Prop where
  distinct : parts.flatten.Nodup
  covers : ∀ node, node ∈ parts.flatten ↔ node ∈ graph.nodes
  inhabited : ∀ part ∈ parts, part ≠ []
  classes : ∀ part ∈ parts, ∀ node ∈ part, ∀ other, other ∈ part ↔ graph.Connected node other

/-- What a finished search from some roots has added to an earlier one. -/
structure Explored (before after : Search ν) (roots fresh : List ν) : Prop where
  visited : after.visited = before.visited ++ fresh
  component : after.component = before.component ++ fresh
  distinct : fresh.Nodup
  unseen : ∀ node ∈ fresh, node ∉ before.visited
  reached : ∀ node ∈ fresh, ∃ root ∈ roots, graph.Connected root node
  covered : ∀ root ∈ roots, root ∈ after.visited
  closed : ∀ node ∈ fresh, ∀ other ∈ graph.neighbors node, other ∈ after.visited

variable {graph}

/-- Searching from no root adds nothing. -/
theorem Explored.none (search : Search ν) : graph.Explored search search [] [] where
  visited := by simp
  component := by simp
  distinct := List.nodup_nil
  unseen := by simp
  reached := by simp
  covered := by simp
  closed := by simp

/-- Two searches in a row add up to one search from the roots of both. -/
theorem Explored.trans {before middle after : Search ν} {root : ν} {roots first second : List ν}
    (one : graph.Explored before middle [root] first)
    (two : graph.Explored middle after roots second) :
    graph.Explored before after (root :: roots) (first ++ second) := by
  -- What the first search saw stays visited, so the second adds only other nodes.
  have kept : ∀ node ∈ middle.visited, node ∈ after.visited := by
    intro node seen
    rw [two.visited]
    exact List.mem_append_left _ seen
  refine ⟨?_, ?_, ?_, ?_, ?_, ?_, ?_⟩
  · rw [two.visited, one.visited, List.append_assoc]
  · rw [two.component, one.component, List.append_assoc]
  · refine List.nodup_append.mpr ⟨one.distinct, two.distinct, ?_⟩
    intro node early other late same
    refine two.unseen other late ?_
    rw [one.visited, ← same]
    exact List.mem_append_right _ early
  · intro node added
    rcases List.mem_append.mp added with early | late
    · exact one.unseen node early
    · intro seen
      refine two.unseen node late ?_
      rw [one.visited]
      exact List.mem_append_left _ seen
  · intro node added
    rcases List.mem_append.mp added with early | late
    · obtain ⟨start, chosen, linked⟩ := one.reached node early
      rw [List.mem_singleton] at chosen
      exact ⟨root, List.mem_cons_self, chosen ▸ linked⟩
    · obtain ⟨start, chosen, linked⟩ := two.reached node late
      exact ⟨start, List.mem_cons_of_mem _ chosen, linked⟩
  · intro start chosen
    rcases List.mem_cons.mp chosen with same | later
    · exact kept start (one.covered start (by simp [same]))
    · exact two.covered start later
  · intro node added other link
    rcases List.mem_append.mp added with early | late
    · exact kept other (one.closed node early other link)
    · exact two.closed node late other link

/-- What holds of the components found so far. -/
structure Splitting (graph : UndirectedGraph ν) (visited : List ν) (found : List (List ν)) : Prop where
  flat : visited = found.flatten
  distinct : visited.Nodup
  inside : ∀ node ∈ visited, node ∈ graph.nodes
  inhabited : ∀ part ∈ found, part ≠ []
  classes : ∀ part ∈ found, ∀ node ∈ part, ∀ other, other ∈ part ↔ graph.Connected node other

/-- A search from an unvisited node collects exactly that node's class. -/
theorem Splitting.step {visited : List ν} {found : List (List ν)}
    (splitting : graph.Splitting visited found) {node : ν} (inside : node ∈ graph.nodes)
    (unvisited : node ∉ visited) {search : Search ν} {fresh : List ν}
    (explored : graph.Explored ⟨visited, []⟩ search [node] fresh) :
    graph.Splitting search.visited (found ++ [search.component]) := by
  have component : search.component = fresh := by simp [explored.component]
  have connected : ∀ other ∈ fresh, graph.Connected node other := by
    intro other added
    obtain ⟨root, chosen, linked⟩ := explored.reached other added
    exact List.mem_singleton.mp chosen ▸ linked
  -- A link out of the new nodes cannot lead into an earlier class, which would contain its source.
  have grows : ∀ member ∈ fresh, ∀ other, graph.Connected member other → other ∈ fresh := by
    intro member added other linked
    induction linked with
    | refl => exact added
    | @tail middle next _ link ih =>
      have seen := explored.closed middle ih next link
      rw [explored.visited] at seen
      rcases List.mem_append.mp seen with earlier | new
      · rw [splitting.flat, List.mem_flatten] at earlier
        obtain ⟨part, located, member⟩ := earlier
        have back : middle ∈ part := (splitting.classes part located next member middle).mpr
          (Relation.ReflTransGen.single (graph.symmetric _ _ link))
        refine absurd ?_ (explored.unseen middle ih)
        simp only [splitting.flat]
        exact List.mem_flatten.mpr ⟨part, located, back⟩
      · exact new
  have nonempty : node ∈ fresh := by
    have seen := explored.covered node (List.mem_singleton_self _)
    rw [explored.visited] at seen
    exact (List.mem_append.mp seen).resolve_left unvisited
  refine ⟨?_, ?_, ?_, ?_, ?_⟩
  · simp [explored.visited, component, splitting.flat]
  · rw [explored.visited]
    exact List.nodup_append.mpr ⟨splitting.distinct, explored.distinct,
      fun earlier seen other added same => explored.unseen other added (same ▸ seen)⟩
  · intro other seen
    rw [explored.visited] at seen
    rcases List.mem_append.mp seen with earlier | new
    · exact splitting.inside other earlier
    · exact (connected other new).mem_nodes inside
  · intro part located
    rcases List.mem_append.mp located with earlier | last
    · exact splitting.inhabited part earlier
    · rw [List.mem_singleton.mp last, component]
      exact List.ne_nil_of_mem nonempty
  · intro part located member held other
    rcases List.mem_append.mp located with earlier | last
    · exact splitting.classes part earlier member held other
    · rw [List.mem_singleton.mp last, component] at held ⊢
      exact ⟨fun added => (connected member held).symm.trans (connected other added),
        grows member held other⟩

/-- Reordering the nodes inside each part keeps a partition. -/
theorem IsPartition.map {parts : List (List ν)} (partition : graph.IsPartition parts)
    {arrange : List ν → List ν} (perm : ∀ part, (arrange part).Perm part) :
    graph.IsPartition (parts.map arrange) := by
  -- Flattened, the rearranged parts are a rearrangement of the parts.
  have flat : (parts.map arrange).flatten.Perm parts.flatten := by
    clear partition
    induction parts with
    | nil => exact List.Perm.refl _
    | cons part rest ih => exact (perm part).append ih
  refine ⟨flat.nodup_iff.mpr partition.distinct, fun node => ?_, ?_, ?_⟩
  · rw [flat.mem_iff, partition.covers]
  · intro arranged located
    obtain ⟨part, member, rfl⟩ := List.mem_map.mp located
    exact fun vanished => partition.inhabited part member ((perm part).symm.trans
      (by rw [vanished])).eq_nil
  · intro arranged located node held other
    obtain ⟨part, member, rfl⟩ := List.mem_map.mp located
    rw [(perm part).mem_iff] at held ⊢
    exact partition.classes part member node held other

variable [DecidableEq ν]

/-- The nodes a search has not visited yet. -/
def remaining (graph : UndirectedGraph ν) (search : Search ν) : Nat :=
  (graph.nodes.filter (· ∉ search.visited)).length

/-- Visiting more nodes leaves no more of them. -/
theorem remaining_le {before after : Search ν} {roots fresh : List ν}
    (explored : graph.Explored before after roots fresh) :
    graph.remaining after ≤ graph.remaining before := by
  -- A node not visited after the search was not visited before it either.
  refine List.Sublist.length_le (List.monotone_filter_right _ ?_)
  intro node unvisited
  simp only [explored.visited, decide_eq_true_eq, List.mem_append, not_or] at unvisited ⊢
  exact unvisited.1

/-- Recording a new node leaves fewer of them. -/
theorem remaining_lt {search : Search ν} {node : ν} (inside : node ∈ graph.nodes)
    (unvisited : node ∉ search.visited) :
    graph.remaining ⟨search.visited ++ [node], search.component ++ [node]⟩
      < graph.remaining search := by
  -- The longer filter drops the node itself from the shorter one's result.
  have split : graph.nodes.filter (· ∉ search.visited ++ [node])
      = (graph.nodes.filter (· ∉ search.visited)).filter (· ≠ node) := by
    rw [List.filter_filter]
    refine List.filter_congr fun other _ => ?_
    simp [and_comm]
  unfold remaining
  rw [split, List.length_filter_lt_length_iff_exists]
  exact ⟨node, by simp [inside, unvisited], by simp⟩

/-- A search with enough fuel for every step visits all it can reach from its roots. -/
theorem explored_foldl {fuel : Nat}
    (step : ∀ search node, node ∈ graph.nodes → graph.remaining search < fuel →
      ∃ fresh, graph.Explored search (graph.visit fuel search node) [node] fresh)
    {roots : List ν} (inside : ∀ root ∈ roots, root ∈ graph.nodes) {search : Search ν}
    (enough : graph.remaining search < fuel) :
    ∃ fresh, graph.Explored search (roots.foldl (graph.visit fuel) search) roots fresh := by
  induction roots generalizing search with
  | nil => exact ⟨[], Explored.none search⟩
  | cons root rest ih =>
    obtain ⟨first, one⟩ := step search root (inside root List.mem_cons_self) enough
    -- Visiting leaves no more nodes than there were, so the fuel is still enough.
    have left : graph.remaining (graph.visit fuel search root) < fuel :=
      Nat.lt_of_le_of_lt (remaining_le one) enough
    obtain ⟨second, two⟩ := ih (fun other later => inside other (List.mem_cons_of_mem _ later)) left
    exact ⟨first ++ second, one.trans two⟩

/-- Visiting one node with enough fuel visits all that is connected to it. -/
theorem explored_visit {fuel : Nat} {search : Search ν} {node : ν} (inside : node ∈ graph.nodes)
    (enough : graph.remaining search < fuel) :
    ∃ fresh, graph.Explored search (graph.visit fuel search node) [node] fresh := by
  -- Each level of recursion uses one unit of fuel and records one more node.
  induction fuel generalizing search node with
  | zero => omega
  | succ fuel ih =>
    unfold visit
    split
    · rename_i seen
      exact ⟨[], by simp, by simp, List.nodup_nil, by simp, by simp, by simpa using seen, by simp⟩
    · rename_i unvisited
      have fewer := remaining_lt inside unvisited
      have left : graph.remaining ⟨search.visited ++ [node], search.component ++ [node]⟩ < fuel := by
        omega
      obtain ⟨fresh, found⟩ := explored_foldl (fun _ _ => ih) (graph.closed node inside) left
      have unseen : ∀ other ∈ fresh, other ∉ search.visited ∧ other ≠ node := by
        intro other added
        simpa using found.unseen other added
      refine ⟨node :: fresh, ?_, ?_, ?_, ?_, ?_, ?_, ?_⟩
      · simp [found.visited]
      · simp [found.component]
      · exact List.nodup_cons.mpr ⟨fun again => (unseen node again).2 rfl, found.distinct⟩
      · intro other added
        rcases List.mem_cons.mp added with same | later
        · exact same ▸ unvisited
        · exact (unseen other later).1
      · intro other added
        refine ⟨node, List.mem_singleton_self _, ?_⟩
        rcases List.mem_cons.mp added with same | later
        · exact same ▸ Relation.ReflTransGen.refl
        · obtain ⟨root, link, linked⟩ := found.reached other later
          exact Relation.ReflTransGen.head link linked
      · simp [found.visited]
      · intro other added next link
        rcases List.mem_cons.mp added with same | later
        · exact found.covered next (same ▸ link)
        · exact found.closed other later next link

/-- The components divide the nodes into their classes of connected nodes. -/
theorem components_isPartition : graph.IsPartition graph.components := by
  -- The outer loop extends a splitting until every node of the graph is visited.
  have loop : ∀ (pending : List ν) (visited : List ν) (found : List (List ν)),
      (∀ node ∈ pending, node ∈ graph.nodes) → graph.Splitting visited found →
      ∃ seen parts,
        pending.foldl (fun (visited, found) node =>
          if node ∈ visited then (visited, found)
          else
            let search := graph.visit (graph.nodes.length + 1) ⟨visited, []⟩ node
            (search.visited, found ++ [search.component])) (visited, found) = (seen, parts) ∧
        graph.Splitting seen parts ∧ (∀ node ∈ visited, node ∈ seen) ∧
          ∀ node ∈ pending, node ∈ seen := by
    intro pending
    induction pending with
    | nil =>
      intro visited found _ splitting
      exact ⟨visited, found, rfl, splitting, fun _ seen => seen, by simp⟩
    | cons node rest ih =>
      intro visited found inside splitting
      have later : ∀ other ∈ rest, other ∈ graph.nodes :=
        fun other member => inside other (List.mem_cons_of_mem _ member)
      simp only [List.foldl_cons]
      split
      · rename_i known
        obtain ⟨seen, parts, folded, done, kept, covered⟩ := ih visited found later splitting
        exact ⟨seen, parts, folded, done, kept,
          List.forall_mem_cons.mpr ⟨kept node known, covered⟩⟩
      · rename_i unvisited
        have here := inside node List.mem_cons_self
        have enough : graph.remaining ⟨visited, []⟩ < graph.nodes.length + 1 :=
          Nat.lt_succ_of_le (List.length_filter_le _ _)
        obtain ⟨fresh, explored⟩ := explored_visit here enough
        obtain ⟨seen, parts, folded, done, kept, covered⟩ :=
          ih _ _ later (splitting.step here unvisited explored)
        refine ⟨seen, parts, folded, done, ?_, List.forall_mem_cons.mpr ⟨?_, covered⟩⟩
        · intro other known
          refine kept other ?_
          rw [explored.visited]
          exact List.mem_append_left _ known
        · exact kept node (explored.covered node (List.mem_singleton_self _))
  obtain ⟨seen, parts, folded, done, _, covered⟩ := loop graph.nodes [] [] (fun _ member => member)
    ⟨rfl, List.nodup_nil, by simp, by simp, by simp⟩
  have result : graph.components = parts := by
    unfold components
    rw [folded]
  rw [result]
  refine ⟨done.flat ▸ done.distinct, fun node => ?_, done.inhabited, done.classes⟩
  rw [← done.flat]
  exact ⟨done.inside node, covered node⟩

end UndirectedGraph

end Pocketdex
