import Multipath.Topology.Blueprint

/-!
# Fat trees

A fat tree of even arity `k` has `k` pods and, with `half = k / 2`, `half * half` core
switches in `half` groups. A pod has `half` edge switches, `half` aggregation switches
and `half` hosts at every edge switch. Inside a pod each edge switch is linked to each
aggregation switch, and aggregation switch `i` is linked to the core switches of
group `i`.

* Ids are given out to the core switches first, then pod by pod to the edge switches,
  the aggregation switches and the hosts (`coreId`, `edgeId`, `aggId`, `hostId`).
* `nodeCount?` counts the nodes of a fat tree without building it.
-/

namespace Multipath

structure FatTree where
  arity : Nat
  coreSwitches : List Nat
  aggSwitches : List Nat
  edgeSwitches : List Nat
  hosts : List Nat
  blueprint : Blueprint
deriving DecidableEq, Repr

namespace FatTree

def defaultArity : Nat := 4

/-- The number of nodes, as long as it and all counts on the way fit 64 bits. -/
def nodeCount? (arity : Nat) : Option Nat := do
  let half := arity / 2
  let cores ← Word.mul? half half
  let layer ← Word.mul? arity half
  let hosts ← Word.mul? layer half
  let switches ← Word.add? cores (← Word.mul? layer 2)
  Word.add? switches hosts

section Ids

variable (half : Nat)

def coreId (group index : Nat) : Nat := group * half + index

def podStart (pod : Nat) : Nat := half * half + pod * (2 * half + half * half)

def edgeId (pod index : Nat) : Nat := podStart half pod + index

def aggId (pod index : Nat) : Nat := podStart half pod + half + index

def hostId (pod edge index : Nat) : Nat := podStart half pod + 2 * half + edge * half + index

end Ids

section Layers

variable (arity half : Nat)

/-- All index pairs, the first index slowest. -/
def pairs (first second : Nat) : List (Nat × Nat) :=
  (List.range first).flatMap fun i => (List.range second).map (i, ·)

def cores : List Nat := (pairs half half).map fun (group, i) => coreId half group i

def aggs : List Nat := (pairs arity half).map fun (pod, i) => aggId half pod i

def edgeLayer : List Nat := (pairs arity half).map fun (pod, i) => edgeId half pod i

def hostLayer : List Nat :=
  (pairs arity half).flatMap fun (pod, edge) => (List.range half).map (hostId half pod edge)

def hostLinks : List (Nat × Nat) :=
  (pairs arity half).flatMap fun (pod, edge) =>
    (List.range half).map fun i => (hostId half pod edge i, edgeId half pod edge)

def podLinks : List (Nat × Nat) :=
  (pairs arity half).flatMap fun (pod, edge) =>
    (List.range half).map fun agg => (edgeId half pod edge, aggId half pod agg)

def coreLinks : List (Nat × Nat) :=
  (pairs arity half).flatMap fun (pod, agg) =>
    (List.range half).map fun i => (aggId half pod agg, coreId half agg i)

end Layers

def build (arity : Nat) : FatTree :=
  let half := arity / 2
  let coreSwitches := cores half
  let aggSwitches := aggs arity half
  let edgeSwitches := edgeLayer arity half
  let hosts := hostLayer arity half
  let links := hostLinks arity half ++ podLinks arity half ++ coreLinks arity half
  let switches := coreSwitches ++ aggSwitches ++ edgeSwitches
  { arity, coreSwitches, aggSwitches, edgeSwitches, hosts
    blueprint :=
      { nodeCount := switches.length + hosts.length
        edgeCount := links.length
        switches := switches
        tors := edgeSwitches
        servers := hosts
        edges := links } }

/-- Whether a fat tree has this arity. -/
def isArity (arity : Nat) : Bool := 2 ≤ arity && arity % 2 == 0

/-- The arity has to be even and positive, and the nodes have to be countable. -/
def ofArity? (arity : Nat) : Option FatTree :=
  if isArity arity ∧ (nodeCount? arity).isSome then some (build arity) else none

def half (tree : FatTree) : Nat := tree.arity / 2

/-- The core switch at a position of its group. Here and below only the position in the
whole layer is checked, so an index past its group reaches into the next ones. -/
def core? (tree : FatTree) (group index : Nat) : Option Nat :=
  tree.coreSwitches[group * tree.half + index]?

def agg? (tree : FatTree) (pod index : Nat) : Option Nat :=
  tree.aggSwitches[pod * tree.half + index]?

def edge? (tree : FatTree) (pod index : Nat) : Option Nat :=
  tree.edgeSwitches[pod * tree.half + index]?

def host? (tree : FatTree) (pod edge index : Nat) : Option Nat :=
  tree.hosts[(pod * tree.half + edge) * tree.half + index]?

end FatTree

end Multipath
