import Multipath.Link.PairMap
import Multipath.Link.Table

/-!
# Interfaces by neighbor

`Interfaces.ofPairs` pairs the edges of a graph with the interfaces of a list of links,
one pair an edge, in order. It fails when their numbers differ, or when an edge would
leave a node through the loopback.
-/

namespace Multipath

/-- The interface of a node toward a neighbor. -/
structure Interfaces where
  toward : PairMap Nat

namespace Interfaces

def loopback : Nat := 0

/-- Edges numbered from `link` on. -/
def addFrom (known : PairMap Nat) (link : Nat) :
    List ((Nat × Nat) × (Nat × Nat)) → Except LinkError (PairMap Nat)
  | [] => .ok known
  | ((a, b), (ifA, ifB)) :: rest =>
    if ifA = loopback ∨ ifB = loopback then .error (.loopbackInterface link a b)
    else addFrom ((known.insert (a, b) ifA).insert (b, a) ifB) (link + 1) rest

def ofPairs (graph : Graph) (pairs : List (Nat × Nat)) : Except LinkError Interfaces :=
  let edges := graph.edges
  if edges.length = pairs.length then
    (addFrom ∅ 0 (edges.zip pairs)).map Interfaces.mk
  else .error (.interfaceCountMismatch edges.length pairs.length)

def get? (interfaces : Interfaces) (node neighbor : Nat) : Option Nat :=
  interfaces.toward[(node, neighbor)]?

/-- The loopback stands for "no such neighbor". -/
def getOrLoopback (interfaces : Interfaces) (node neighbor : Nat) : Nat :=
  (interfaces.get? node neighbor).getD loopback

def size (interfaces : Interfaces) : Nat := interfaces.toward.size

def name (interface : Nat) : String := s!"if{interface}"

end Interfaces

end Multipath
