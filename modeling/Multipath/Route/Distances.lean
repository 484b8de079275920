import Multipath.Config.Basic
import Multipath.Graph.Basic
import Multipath.Route.Error

/-!
# Hop distances

The distances of a graph form a square matrix of 32-bit hop counts, kept row by row in
one array, with the largest word for "unreachable". They start with the edges and are
relaxed through one node after the other.

* A round `relaxThrough k` replaces each distance by the way through `k` where that is
  shorter. The row and the column of `k` keep their values in that round, so every
  cell can be computed from the matrix before it.
* Positions in the array are plain numbers. A matrix whose positions leave 64 bits, or
  that is too large for any memory, is outside the model.
* A sum of hop counts is a sum of words. Up to `2 ^ 31` nodes none leaves 32 bits. Of
  more nodes the cells alone would fill `2 ^ 64` bytes, so no matrix that can be kept
  has such a sum.
-/

namespace Multipath

def unreachable : UInt32 := 0xFFFFFFFF

structure Distances where
  size : Nat
  cells : Array UInt32
  size_cells : cells.size = size * size
deriving DecidableEq, Repr

namespace Distances

/-- The cell `node * size + other`. A column past the last continues in a later row;
past the last cell there is none. -/
def hops? (d : Distances) (node other : Nat) : Option UInt32 :=
  d.cells[node * d.size + other]?

/-- The distance of two nodes. Past the last cell everything is unreachable. -/
def hops (d : Distances) (node other : Nat) : UInt32 :=
  (d.hops? node other).getD unreachable

/-- Distance zero to oneself and one along an edge. -/
def direct (graph : Graph) : Distances where
  size := graph.size
  cells := Array.ofFn (n := graph.size * graph.size) fun cell =>
    let node := cell.val / graph.size
    let other := cell.val % graph.size
    if node = other then 0 else if graph.hasEdge node other then 1 else unreachable
  size_cells := by simp

/-- The sum of two finite distances where it is less than `direct`, which stays otherwise. -/
def shorter (direct first second : UInt32) : UInt32 :=
  if first = unreachable ∨ second = unreachable then direct
  else if first + second < direct then first + second
  else direct

def relaxThrough (k : Nat) (d : Distances) : Distances where
  size := d.size
  cells := d.cells.mapIdx fun cell direct =>
    shorter direct (d.hops (cell / d.size) k) (d.hops k (cell % d.size))
  size_cells := by simp [d.size_cells]

def ofGraph (graph : Graph) (config : Config) : Except RouteError Distances :=
  if graph.size ≤ config.maxNodes then
    .ok ((List.range graph.size).foldl (fun d k => d.relaxThrough k) (direct graph))
  else .error (.tooManyNodes graph.size config.maxNodes)

def isReachable (d : Distances) (node other : Nat) : Bool :=
  d.hops node other != unreachable

/-- The largest finite distance; a matrix of no cells has none. -/
def diameter? (d : Distances) : Option UInt32 :=
  (d.cells.toList.filter (· != unreachable)).max?

end Distances

end Multipath
