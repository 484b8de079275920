import Multipath.Flow.Hash
import Multipath.Link.Addresses
import Multipath.Link.Interfaces
import Multipath.Route.NextHops
import Multipath.Topology.Basic

/-!
# Forwarding decisions

A router of a topology holds the tables that a decision reads. Nothing is computed
anew for a packet: the next hop is the one at position `hash % length` of the list for
the destination, and the hash depends on the node, the flow and the seed only.

* `decide` needs the source and the destination as nodes, `decideHeader` finds them by
  the addresses of the flow.
* `path?` follows the decisions. A path of more nodes than the topology has is a loop.
* `stateText` shows the next hops of a node for every destination.
-/

namespace Multipath

/-- The way out of a node: over this interface to the neighbor's address on that link. -/
structure Egress where
  neighbor : Nat
  interface : Nat
  gateway : Address
deriving DecidableEq, Repr

inductive Decision
  | forward (egress : Egress)
  | noRoute
  | localDelivery
deriving DecidableEq, Repr

structure Router where
  size : Nat
  nextHops : NextHops
  interfaces : Interfaces
  addresses : Addresses
  seed : UInt32

namespace Router

/-- A router over links that were installed before. -/
def withLinks (t : Topology) (links : LinkTable) (config : Config) :
    Except RouteError Router := do
  let nextHops ← NextHops.ofGraph t.graph config
  let interfaces ← (Interfaces.ofPairs t.graph links.interfacePairs).mapError .badLinks
  return {
    size := t.size
    nextHops
    interfaces
    addresses := Addresses.ofLinks links
    seed := config.hashSeed }

def ofTopology (t : Topology) (config : Config) : Except RouteError Router := do
  let links ← (LinkTable.install t.graph).mapError .badLinks
  withLinks t links config

def checkNode (r : Router) (node : Nat) : Except RouteError Unit :=
  if node < r.size then .ok () else .error (.outOfRange node r.size)

def hash (r : Router) (node : Nat) (flow : Flow) : UInt32 :=
  flow.hash r.seed node.toUInt64

/-- The egress of `node` toward a neighbor, as far as the tables know one. -/
def egress? (r : Router) (node neighbor : Nat) : Option Egress := do
  let interface ← r.interfaces.get? node neighbor
  let gateway ← r.addresses.gateway? node neighbor
  return { neighbor, interface, gateway }

/-- A list of no next hops has an entry at no position, so it gives no route. -/
def decide (r : Router) (current source destination : Nat) (flow : Flow) :
    Except RouteError Decision := do
  r.checkNode current
  r.checkNode source
  r.checkNode destination
  if current = destination then return .localDelivery
  let hops := r.nextHops.get current destination
  match hops[(r.hash current flow).toNat % hops.length]? with
  | none => return .noRoute
  | some neighbor =>
    match r.egress? current neighbor with
    | some egress => return .forward egress
    | none => throw (.notANeighbor current neighbor destination)

def resolve (r : Router) (address : Address) : Except RouteError Nat :=
  match r.addresses.resolve? address with
  | some node => .ok node
  | none => .error (.unknownAddress address)

/-- A packet whose source is not known yet starts here, and its ports are unreadable. -/
def decideHeader (r : Router) (current : Nat) (flow : Flow) : Except RouteError Decision := do
  if flow.source = Addresses.unknownSource then
    let destination ← r.resolve flow.destination
    r.decide current current destination flow.withoutPorts
  else
    let source ← r.resolve flow.source
    let destination ← r.resolve flow.destination
    r.decide current source destination flow

/-- The path from `current` on, with at most `budget` further hops. -/
def pathFrom (r : Router) (source destination : Nat) (flow : Flow) (budget current : Nat) :
    Except RouteError (Option (List Nat)) :=
  match r.decide current source destination flow with
  | .error fault => .error fault
  | .ok .localDelivery => .ok (some [current])
  | .ok .noRoute => .ok none
  | .ok (.forward egress) =>
    match budget with
    | 0 => .error (.routingLoop source destination r.size)
    | budget + 1 =>
      (pathFrom r source destination flow budget egress.neighbor).map (·.map (current :: ·))

def path? (r : Router) (source destination : Nat) (flow : Flow) :
    Except RouteError (Option (List Nat)) :=
  r.pathFrom source destination flow (r.size - 1) source

def stateLine (r : Router) (node destination : Nat) : List Char :=
  "  -> ".toList ++ Text.writeNat destination ++ [':', ' ', '{'] ++
    Text.join ',' ((r.nextHops.get node destination).map Text.writeNat) ++ ['}', '\n']

def stateText (r : Router) (node : Nat) : String :=
  String.ofList
    ("ECMP state of node ".toList ++ Text.writeNat node ++ ['\n'] ++
      (List.range r.size).flatMap (r.stateLine node))

end Router

end Multipath
