import Multipath.Route.Distances

/-!
# Equal-cost next hops

For each node and destination the table lists the neighbors that are one hop closer to
the destination. It is filled by going through the edges: an edge offers its upper end
to its lower end, or the other way round, wherever that end is one hop closer. So a
list is in the order of the edges, which is ascending.

There are as many lists as pairs of nodes, and their positions are plain numbers. As with
`Distances`, a table whose positions leave 64 bits, or that is too large for any memory, is
outside the model.
-/

namespace Multipath

structure NextHops where
  size : Nat
  lists : Array (List Nat)
deriving DecidableEq, Repr

namespace NextHops

/-- Whether `b` is exactly one hop closer to `destination` than `a`. -/
def isCloser (d : Distances) (destination a b : Nat) : Bool :=
  let fromA := d.hops a destination
  let fromB := d.hops b destination
  fromA != unreachable && fromB != unreachable && fromA.toNat == fromB.toNat + 1

def empty (size : Nat) : NextHops := ⟨size, Array.replicate (size * size) []⟩

def append (table : NextHops) (node destination next : Nat) : NextHops :=
  { table with
    lists := table.lists.modify (node * table.size + destination) (· ++ [next]) }

def offer (d : Distances) (edge : Nat × Nat) (table : NextHops) (destination : Nat) :
    NextHops :=
  let (a, b) := edge
  if isCloser d destination a b then table.append a destination b
  else if isCloser d destination b a then table.append b destination a
  else table

def offerAll (d : Distances) (table : NextHops) (edge : Nat × Nat) : NextHops :=
  (List.range table.size).foldl (offer d edge) table

def fill (graph : Graph) (d : Distances) : NextHops :=
  graph.edges.foldl (offerAll d) (empty graph.size)

/-- The distances have to be those of as many nodes as the graph has. -/
def ofDistances? (graph : Graph) (d : Distances) : Option NextHops :=
  if d.size = graph.size then some (fill graph d) else none

def ofGraph (graph : Graph) (config : Config) : Except RouteError NextHops :=
  (Distances.ofGraph graph config).map (fill graph)

/-- The next hops in ascending order; none for an id that is no node. -/
def get (table : NextHops) (node destination : Nat) : List Nat :=
  if node < table.size ∧ destination < table.size then
    table.lists[node * table.size + destination]?.getD []
  else []

/-- The number of pairs of a node and a destination with a choice of next hops. -/
def multipathPairs (table : NextHops) : Nat :=
  table.lists.toList.countP fun hops => 1 < hops.length

end NextHops

end Multipath
