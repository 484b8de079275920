import Mathlib.Tactic.Ring
import Multipath.Proofs.FatTree.Wiring

/-!
# Counting the nodes of a fat tree

The ids of a fat tree can be given out by one counter: to the core switches first, then pod by pod
to the edge switches, the aggregation switches and the hosts of each edge switch. Every pod takes
the same number of ids, so each place gets the id that it has by its indices, and the counter ends
at the number of nodes.

Results:
1. `run_repeated`: a loop over steps that start where the one before ended.
2. `run_nextPod`, `run_nextTree`: which ids the places get, and where the counter ends.
3. `numbered_eq_build`: the tree that is numbered by a counter is the one built from its places.
4. `nodeTotal_eq`, `nodeCount?_eq_some_iff_total`: the number of nodes, and when it is counted.
-/

namespace Multipath.FatTree

/-! ## 1. A counter of ids -/

def nextId : StateM ℕ ℕ := modifyGet fun next => (next, next + 1)

def repeated {α : Type} (step : StateM ℕ α) : ℕ → StateM ℕ (List α)
  | 0 => return []
  | count + 1 => do
    let item ← step
    let items ← repeated step count
    return item :: items

theorem run_bind_eq {α β : Type} {step : StateM ℕ α} {rest : α → StateM ℕ β} {next last : ℕ}
    {item : α} (ran : step.run next = (item, last)) :
    (step >>= rest).run next = (rest item).run last := by
  rw [StateT.run_bind, ran]
  rfl

/-- If each step makes its item and leaves the counter where the next one starts, then so does the
loop. -/
theorem run_repeated {α : Type} {step : StateM ℕ α} {start : ℕ → ℕ} {item : ℕ → α}
    (steps : ∀ i, step.run (start i) = (item i, start (i + 1))) (count : ℕ) :
    (repeated step count).run (start 0) = ((List.range count).map item, start count) := by
  induction count generalizing start item with
  | zero => rfl
  | succ count ih =>
    -- the rest of the loop is one that starts at the second item
    have later := @ih (fun i => start (i + 1)) (fun i => item (i + 1)) fun i => steps (i + 1)
    rw [repeated, run_bind_eq (steps 0), run_bind_eq later, List.range_succ_eq_map, List.map_cons,
      List.map_map]
    rfl

/-- Ids that are taken one by one are consecutive. -/
theorem run_ids (first count : ℕ) : (repeated nextId count).run first =
    ((List.range count).map (first + ·), first + count) :=
  @run_repeated ℕ nextId (first + ·) (first + ·) (fun _ => rfl) count

/-! ## 2. Pod by pod -/

/-- The ids of a pod. There is one rack of hosts for each edge switch. -/
structure Pod where
  edges : List ℕ
  aggs : List ℕ
  racks : List (List ℕ)

def nextPod (half : ℕ) : StateM ℕ Pod := do
  let edges ← repeated nextId half
  let aggs ← repeated nextId half
  let racks ← repeated (repeated nextId half) edges.length
  return { edges, aggs, racks }

def nextTree (arity : ℕ) : StateM ℕ (List ℕ × List Pod) := do
  let half := arity / 2
  let coreSwitches ← repeated nextId (half * half)
  let pods ← repeated (nextPod half) arity
  return (coreSwitches, pods)

/-- The nodes of a pod by their indices. -/
def podAt (half pod : ℕ) : Pod where
  edges := (List.range half).map (edgeId half pod)
  aggs := (List.range half).map (aggId half pod)
  racks := (List.range half).map fun rack => (List.range half).map (hostId half pod rack)

variable {arity half : ℕ}

theorem run_racks (first count : ℕ) : (repeated (repeated nextId half) count).run first =
    ((List.range count).map fun rack => (List.range half).map (first + rack * half + ·),
      first + count * half) := by
  have steps : ∀ rack, (repeated nextId half).run (first + rack * half) =
      ((List.range half).map (first + rack * half + ·), first + (rack + 1) * half) := by
    intro rack
    rw [run_ids, Nat.add_mul, Nat.one_mul, Nat.add_assoc]
  have racks := run_repeated steps count
  rwa [Nat.zero_mul, Nat.add_zero] at racks

/-- A pod takes the ids up to where the next one starts. -/
theorem run_nextPod (pod : ℕ) :
    (nextPod half).run (podStart half pod) = (podAt half pod, podStart half (pod + 1)) := by
  have hosts : podStart half pod + half + half = podStart half pod + 2 * half := by ring
  have behind : podStart half pod + 2 * half + half * half = podStart half (pod + 1) := by
    unfold podStart
    ring
  rw [nextPod, run_bind_eq (run_ids _ _), run_bind_eq (run_ids _ _), List.length_map,
    List.length_range, run_bind_eq (run_racks _ _), hosts, behind]
  rfl

theorem run_nextTree : (nextTree arity).run 0 =
    ((((List.range (arity / 2 * (arity / 2))).map (0 + ·)),
      (List.range arity).map (podAt (arity / 2))), podStart (arity / 2) arity) := by
  have pods := run_repeated (@run_nextPod (arity / 2)) arity
  rw [podStart, Nat.zero_mul, Nat.add_zero] at pods
  rw [nextTree, run_bind_eq (run_ids _ _), Nat.zero_add, run_bind_eq pods]
  rfl

/-! ## 3. The numbered tree -/

namespace Pod

def hosts (pod : Pod) : List ℕ := pod.racks.flatten

def hostLinks (pod : Pod) : List (ℕ × ℕ) :=
  (pod.edges.zip pod.racks).flatMap fun (edge, rack) => rack.map (·, edge)

def podLinks (pod : Pod) : List (ℕ × ℕ) :=
  pod.edges.flatMap fun edge => pod.aggs.map (edge, ·)

/-- Each aggregation switch is linked to the group of core switches at its position in the pod. A
core switch that is not there would get no link. -/
def coreLinks (half : ℕ) (coreSwitches : List ℕ) (pod : Pod) : List (ℕ × ℕ) :=
  pod.aggs.zipIdx.flatMap fun (agg, group) =>
    (List.range half).filterMap fun i => coreSwitches[group * half + i]?.map (agg, ·)

end Pod

/-- The tree as it is numbered: its number of nodes is where the counter ends. -/
def numbered (arity : ℕ) : FatTree :=
  let half := arity / 2
  let ((coreSwitches, pods), next) := (nextTree arity).run 0
  let aggSwitches := pods.flatMap Pod.aggs
  let edgeSwitches := pods.flatMap Pod.edges
  let hosts := pods.flatMap Pod.hosts
  let links := pods.flatMap Pod.hostLinks ++ pods.flatMap Pod.podLinks ++
    pods.flatMap (Pod.coreLinks half coreSwitches)
  { arity, coreSwitches, aggSwitches, edgeSwitches, hosts
    blueprint :=
      { nodeCount := next
        edgeCount := links.length
        switches := coreSwitches ++ aggSwitches ++ edgeSwitches
        tors := edgeSwitches
        servers := hosts
        edges := links } }

/-- What is collected from the pods is collected from the indices of one of their layers. -/
theorem flatMap_pods {α : Type} {collect : Pod → List α} {atIndex : ℕ × ℕ → List α}
    (same : ∀ pod, collect (podAt half pod) =
      (List.range half).flatMap fun i => atIndex (pod, i)) :
    ((List.range arity).map (podAt half)).flatMap collect = (pairs arity half).flatMap atIndex := by
  rw [pairs, List.flatMap_assoc, List.flatMap_map]
  simp only [same, List.flatMap_map]

theorem flatMap_edges :
    ((List.range arity).map (podAt half)).flatMap Pod.edges = edgeLayer arity half := by
  refine (flatMap_pods fun pod => ?_).trans List.map_eq_flatMap.symm
  exact List.map_eq_flatMap

theorem flatMap_aggs :
    ((List.range arity).map (podAt half)).flatMap Pod.aggs = aggs arity half := by
  refine (flatMap_pods fun pod => ?_).trans List.map_eq_flatMap.symm
  exact List.map_eq_flatMap

theorem flatMap_hosts :
    ((List.range arity).map (podAt half)).flatMap Pod.hosts = hostLayer arity half :=
  flatMap_pods fun _ => rfl

theorem flatMap_hostLinks :
    ((List.range arity).map (podAt half)).flatMap Pod.hostLinks = hostLinks arity half := by
  refine flatMap_pods fun pod => ?_
  rw [Pod.hostLinks, podAt, List.zip_map', List.flatMap_map]
  simp only [List.map_map]
  rfl

theorem flatMap_podLinks :
    ((List.range arity).map (podAt half)).flatMap Pod.podLinks = podLinks arity half := by
  refine flatMap_pods fun pod => ?_
  rw [Pod.podLinks, podAt, List.flatMap_map]
  simp only [List.map_map]
  rfl

theorem range_mul (first second : ℕ) :
    List.range (first * second) = (pairs first second).map fun (i, j) => i * second + j := by
  induction first with
  | zero =>
    rw [Nat.zero_mul]
    rfl
  | succ first ih =>
    rw [Nat.succ_mul, List.range_add, ih, pairs, pairs, List.range_succ, List.flatMap_append,
      List.flatMap_singleton, List.map_append, List.map_map]
    rfl

theorem range_eq_cores (half : ℕ) : (List.range (half * half)).map (0 + ·) = cores half := by
  simp only [Nat.zero_add, List.map_id']
  exact range_mul half half

theorem getElem?_cores {group i : ℕ} (inGroups : group < half) (inGroup : i < half) :
    (cores half)[group * half + i]? = some (coreId half group i) := by
  rw [cores, List.getElem?_map, getElem?_pairs inGroups inGroup]
  rfl

theorem zipIdx_map_range {α : Type} (item : ℕ → α) (count : ℕ) :
    ((List.range count).map item).zipIdx = (List.range count).map fun i => (item i, i) := by
  refine List.ext_getElem (by simp) fun i inList inRange => ?_
  simp

theorem flatMap_coreLinks :
    ((List.range arity).map (podAt half)).flatMap (Pod.coreLinks half (cores half)) =
      coreLinks arity half := by
  refine flatMap_pods fun pod => ?_
  rw [Pod.coreLinks, podAt, zipIdx_map_range, List.flatMap_map]
  refine List.flatMap_congr fun group inGroups => ?_
  have linked : ∀ i ∈ List.range half, (cores half)[group * half + i]?.map (aggId half pod group, ·) =
      some (aggId half pod group, coreId half group i) := by
    intro i inGroup
    rw [getElem?_cores (List.mem_range.1 inGroups) (List.mem_range.1 inGroup)]
    rfl
  exact (List.filterMap_congr linked).trans (congrFun List.filterMap_eq_map _)

theorem numbered_eq_build (arity : ℕ) : numbered arity = build arity := by
  have nodes : (build arity).blueprint.nodeCount = podStart (arity / 2) arity := nodeCount_build
  unfold numbered
  rw [run_nextTree, range_eq_cores]
  dsimp only
  rw [flatMap_edges, flatMap_aggs, flatMap_hosts, flatMap_hostLinks, flatMap_podLinks,
    flatMap_coreLinks, ← nodes]
  rfl

/-! ## 4. The number of nodes -/

/-- Core switches, the two layers of switches in the pods, and hosts. -/
def nodeTotal (arity : ℕ) : ℕ :=
  (arity / 2) ^ 2 + 2 * arity * (arity / 2) + arity * (arity / 2) ^ 2

theorem nodeCount_build_eq_total (arity : ℕ) :
    (build arity).blueprint.nodeCount = nodeTotal arity := by
  rw [nodeCount_build_eq_sum, nodeTotal]
  ring

theorem nodeCount?_eq_some_iff_total {count : ℕ} : nodeCount? arity = some count ↔
    nodeTotal arity < Word.wordBound ∧ count = nodeTotal arity := by
  rw [nodeCount?_eq_some_iff, nodeCount_build_eq_total]
  exact and_congr_left fun total => total ▸ Iff.rfl

/-- For an even arity no division in the formula leaves a rest. -/
theorem nodeTotal_eq (even : isArity arity = true) :
    nodeTotal arity = arity ^ 3 / 4 + 5 * arity ^ 2 / 4 := by
  have twice := eq_two_mul_half even
  have hosts : arity ^ 3 = 4 * (arity * (arity / 2) ^ 2) := by
    calc arity ^ 3 = arity * arity ^ 2 := by ring
      _ = arity * (2 * (arity / 2)) ^ 2 := by rw [← twice]
      _ = _ := by ring
  have switches : 5 * arity ^ 2 = 4 * ((arity / 2) ^ 2 + 2 * arity * (arity / 2)) := by
    calc 5 * arity ^ 2 = arity ^ 2 + 4 * arity * arity := by ring
      _ = (2 * (arity / 2)) ^ 2 + 4 * arity * (2 * (arity / 2)) := by rw [← twice]
      _ = _ := by ring
  rw [hosts, switches, Nat.mul_div_cancel_left _ (by decide), Nat.mul_div_cancel_left _ (by decide),
    nodeTotal, Nat.add_comm]

end Multipath.FatTree
