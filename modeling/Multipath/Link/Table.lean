import Multipath.Graph.Basic
import Multipath.Link.Address

/-!
# Links

Every edge of a graph becomes a point-to-point link with a network of its own. Links
are numbered from zero in the order of the edges.

* At each node the interfaces are numbered from one, in the order in which the
  links of that node are installed. Interface zero is the loopback.
* Link `i` has the network `10.0.0.0 + 256 * i`, where the lower end of the edge
  gets the first host address and the upper end the second.
-/

namespace Multipath

/-- One end of a link. -/
structure LinkEnd where
  node : Nat
  interface : Nat
  address : Address
deriving DecidableEq, Repr, Inhabited

structure Link where
  id : Nat
  lower : LinkEnd
  upper : LinkEnd
deriving DecidableEq, Repr, Inhabited

inductive LinkError
  | addressSpaceExhausted (links : Nat)
  | interfaceCountMismatch (edges pairs : Nat)
  | loopbackInterface (link lower upper : Nat)
deriving DecidableEq, Repr

namespace LinkError

def message : LinkError → String
  | addressSpaceExhausted links => s!"address space exhausted after {links} links"
  | interfaceCountMismatch edges pairs =>
    s!"got {pairs} interface pairs for {edges} undirected edges"
  | loopbackInterface link lower upper =>
    s!"link {link} ({lower}-{upper}) is mapped to the loopback interface"

end LinkError

namespace Link

/-- The other end's node, if `node` is on the link at all. -/
def peer? (link : Link) (node : Nat) : Option Nat :=
  if node = link.lower.node then some link.upper.node
  else if node = link.upper.node then some link.lower.node
  else none

end Link

structure LinkTable where
  links : List Link
deriving DecidableEq, Repr

namespace LinkTable

/-- The network `10.0.0.0` as a number. -/
def baseNetwork : Nat := 0x0A000000

/-- The two host addresses of link `id`, as long as both are 32-bit addresses. -/
def hosts? (id : Nat) : Option (Address × Address) :=
  let network := baseNetwork + 256 * id
  if network + 2 < UInt32.size then
    some (⟨UInt32.ofNat (network + 1)⟩, ⟨UInt32.ofNat (network + 2)⟩)
  else none

/-- Links numbered from `id` on, where `used` counts the interfaces of each node so far. -/
def installFrom (used : Array Nat) (id : Nat) :
    List (Nat × Nat) → Except LinkError (List Link)
  | [] => .ok []
  | (a, b) :: rest =>
    match hosts? id with
    | none => .error (.addressSpaceExhausted id)
    | some (hostA, hostB) =>
      let used := (used.modify a (· + 1)).modify b (· + 1)
      let link : Link :=
        { id := id
          lower := ⟨a, used[a]?.getD 0, hostA⟩
          upper := ⟨b, used[b]?.getD 0, hostB⟩ }
      (installFrom used (id + 1) rest).map (link :: ·)

def install (graph : Graph) : Except LinkError LinkTable :=
  (installFrom (Array.replicate graph.size 0) 0 graph.edges).map LinkTable.mk

def get? (table : LinkTable) (id : Nat) : Option Link := table.links[id]?

def size (table : LinkTable) : Nat := table.links.length

/-- The interfaces of each link at its lower and its upper end. -/
def interfacePairs (table : LinkTable) : List (Nat × Nat) :=
  table.links.map fun link => (link.lower.interface, link.upper.interface)

end LinkTable

end Multipath
