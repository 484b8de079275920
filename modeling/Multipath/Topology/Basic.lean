import Multipath.Graph.Basic
import Multipath.Topology.Blueprint

/-!
# Topologies

A topology is a graph in which every node is a server, a switch, or a switch at
the top of a rack (a ToR).

* `Topology.ofBlueprint` checks a blueprint. Servers and switches have to share out
  the nodes between them, and a server may be linked to ToRs only.
* The role lists are checked first, then the roles against each other, then the
  edges, then their number, then the links of servers. The first fault found is
  the error, and where roles or links of servers clash it is the smallest node.
-/

namespace Multipath

inductive Role
  | switch
  | tor
  | server
deriving DecidableEq, Repr, Inhabited

namespace Role

def name : Role → String
  | switch => "switch"
  | tor => "ToR"
  | server => "server"

end Role

inductive TopologyError
  | unreadable (cause : BlueprintError)
  | outOfRange (role : Role) (node size : Nat)
  | repeated (role : Role) (node : Nat)
  | rolesOverlap (node : Nat)
  | torNotSwitch (node : Nat)
  | rolesIncomplete (covered size : Nat)
  | badEdge (cause : EdgeError)
  | edgeCountMismatch (declared actual : Nat)
  | serverToNonTor (server neighbor : Nat)
deriving DecidableEq, Repr

namespace TopologyError

def rangeMessage (kind : String) (node size : Nat) : String :=
  s!"{kind} node {node} is out of node id range [0, {size})"

def message : TopologyError → String
  | unreadable cause => cause.message
  | outOfRange role node size => rangeMessage role.name node size
  | repeated role node => s!"{role.name} set lists node {node} more than once"
  | rolesOverlap node => s!"node {node} is marked both as server and as switch"
  | torNotSwitch node => s!"ToR {node} is not a switch"
  | rolesIncomplete covered size =>
    s!"servers and switches cover {covered} nodes, expected {size}"
  | badEdge (.loop node) => s!"cannot have edge to itself on node {node}"
  | badEdge (.outOfRange node size) => rangeMessage "edge" node size
  | badEdge (.duplicate low high) => s!"duplicate edge {low}-{high}"
  | edgeCountMismatch declared actual =>
    s!"indicated number of undirected edges ({declared}) does not match edge set ({actual})"
  | serverToNonTor server neighbor =>
    s!"server node {server} has an edge to node {neighbor} which is not a ToR"

end TopologyError

/-- The role lists of a blueprint as sets. -/
structure RoleSets where
  switches : NodeSet
  tors : NodeSet
  servers : NodeSet
deriving DecidableEq, Repr

namespace RoleSets

def collect (role : Role) (size : Nat) (ids : List Nat) : Except TopologyError NodeSet :=
  ids.foldlM
    (fun nodes node =>
      if node < size then
        match nodes.insert? node with
        | some grown => .ok grown
        | none => .error (.repeated role node)
      else .error (.outOfRange role node size))
    ∅

def collectAll (b : Blueprint) : Except TopologyError RoleSets := do
  let switches ← collect .switch b.nodeCount b.switches
  let tors ← collect .tor b.nodeCount b.tors
  let servers ← collect .server b.nodeCount b.servers
  return { switches, tors, servers }

/-- The first clash between the role sets of a topology with `size` nodes. -/
def clash? (sets : RoleSets) (size : Nat) : Option TopologyError :=
  match sets.servers.toList.find? (· ∈ sets.switches) with
  | some node => some (.rolesOverlap node)
  | none =>
    match sets.tors.toList.find? (· ∉ sets.switches) with
    | some node => some (.torNotSwitch node)
    | none =>
      let covered := sets.switches.size + sets.servers.size
      if covered = size then none else some (.rolesIncomplete covered size)

def ofBlueprint (b : Blueprint) : Except TopologyError RoleSets := do
  let sets ← collectAll b
  match sets.clash? b.nodeCount with
  | some clash => .error clash
  | none => .ok sets

def roleOf (sets : RoleSets) (node : Nat) : Role :=
  if node ∈ sets.servers then .server
  else if node ∈ sets.tors then .tor
  else .switch

/-- The first link from a server to a node that is no ToR. -/
def strayLink? (sets : RoleSets) (graph : Graph) : Option (Nat × Nat) :=
  sets.servers.toList.findSome? fun server =>
    ((graph.neighbors server).toList.find? (· ∉ sets.tors)).map (server, ·)

end RoleSets

structure Topology where
  graph : Graph
  roles : Array Role
  size_roles : roles.size = graph.size

namespace Topology

def assemble (graph : Graph) (sets : RoleSets) : Topology where
  graph := graph
  roles := ((List.range graph.size).map sets.roleOf).toArray
  size_roles := by simp

def ofBlueprint (b : Blueprint) : Except TopologyError Topology := do
  let sets ← RoleSets.ofBlueprint b
  let graph ← (Graph.ofEdges b.nodeCount b.edges).mapError .badEdge
  if b.edges.length = b.edgeCount then
    match sets.strayLink? graph with
    | some (server, neighbor) => .error (.serverToNonTor server neighbor)
    | none => .ok (assemble graph sets)
  else .error (.edgeCountMismatch b.edgeCount b.edges.length)

def ofText (text : String) : Except TopologyError Topology := do
  let b ← (Blueprint.ofText text).mapError .unreadable
  ofBlueprint b

def size (t : Topology) : Nat := t.graph.size

def edges (t : Topology) : List (Nat × Nat) := t.graph.edges

def edgeCount (t : Topology) : Nat := t.edges.length

def neighbors (t : Topology) (node : Nat) : NodeSet := t.graph.neighbors node

def hasEdge (t : Topology) (a b : Nat) : Bool := t.graph.hasEdge a b

def contains (t : Topology) (node : Nat) : Bool := decide (node < t.size)

def isServer (t : Topology) (node : Nat) : Bool := t.roles[node]? == some .server

def isTor (t : Topology) (node : Nat) : Bool := t.roles[node]? == some .tor

/-- A ToR is a switch. -/
def isSwitch (t : Topology) (node : Nat) : Bool :=
  t.isTor node || t.roles[node]? == some .switch

def servers (t : Topology) : NodeSet := NodeSet.below t.size t.isServer

def tors (t : Topology) : NodeSet := NodeSet.below t.size t.isTor

def switches (t : Topology) : NodeSet := NodeSet.below t.size t.isSwitch

def hasNoServers (t : Topology) : Bool := t.servers.toList.isEmpty

/-- The nodes at which flows may start and end: the servers, or the ToRs of a
topology without servers. -/
def endpoints (t : Topology) : NodeSet :=
  if t.hasNoServers then t.tors else t.servers

def isEndpoint (t : Topology) (node : Nat) : Bool := decide (node ∈ t.endpoints)

end Topology

end Multipath
