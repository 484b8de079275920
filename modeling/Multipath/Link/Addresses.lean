import Multipath.Link.PairMap
import Multipath.Link.Table

/-!
# Addresses of nodes

The address plan of a link table answers three questions: which node has an address,
which address an interface has, and at which address a neighbor is reached over the
link to it.
-/

namespace Multipath

structure Addresses where
  owner : Std.ExtTreeMap Address Nat
  interface : PairMap Address
  gateway : PairMap Address

namespace Addresses

/-- The address `102.102.102.102` stands for a source that is not known yet. -/
def unknownSource : Address := .ofOctets 102 102 102 102

def empty : Addresses := ⟨∅, ∅, ∅⟩

/-- Adds one end of a link and the way to it from the other end. -/
def addEnd (plan : Addresses) (near far : LinkEnd) : Addresses where
  owner := plan.owner.insert near.address near.node
  interface := plan.interface.insert (near.node, near.interface) near.address
  gateway := plan.gateway.insert (far.node, near.node) near.address

def addLink (plan : Addresses) (link : Link) : Addresses :=
  (plan.addEnd link.lower link.upper).addEnd link.upper link.lower

def ofLinks (table : LinkTable) : Addresses :=
  table.links.foldl addLink empty

def resolve? (plan : Addresses) (address : Address) : Option Nat :=
  plan.owner[address]?

def address? (plan : Addresses) (node interface : Nat) : Option Address :=
  plan.interface[(node, interface)]?

/-- The address of a node's first interface. -/
def primary? (plan : Addresses) (node : Nat) : Option Address :=
  plan.address? node 1

def gateway? (plan : Addresses) (node neighbor : Nat) : Option Address :=
  plan.gateway[(node, neighbor)]?

/-- The number of addresses in use. -/
def size (plan : Addresses) : Nat := plan.owner.size

end Addresses

end Multipath
