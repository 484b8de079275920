import Multipath.Config.Reading
import Multipath.FatTree
import Multipath.Route.Router
import Multipath.Trace.Error
import Multipath.Trace.Options

/-!
# Setups of a trace

The setup is all that a trace knows before it shows anything: the topology, its router
and the protocol of its flows.

* `Setup.ofOptions` reads the configuration first, then the protocol, then the
  topology, and builds the router last. The first failure among these is the result.
* A fat tree is checked against the limit of the configuration before it is built.
-/

namespace Multipath

/-- A view of the file system: the text at a path. -/
abbrev Files := String → Except ReadFailure String

structure Setup where
  topology : Topology
  router : Router
  protocol : UInt8

namespace Setup

def readConfig (files : Files) : Option String → Except TraceError Config
  | none => .ok {}
  | some path => do
    let text ← (files path).mapError (.unreadableConfig path)
    (Config.ofText text).mapError .badConfig

/-- A protocol by name, in any case of its letters, or by number. -/
def readProtocol (name : String) : Except TraceError UInt8 :=
  let name := name.map Char.toLower
  if name = "tcp" then .ok Flow.tcpProtocol
  else if name = "udp" then .ok Flow.udpProtocol
  else match Text.readNat? UInt8.size name.toList with
    | some number => .ok (UInt8.ofNat number)
    | none => .error (.unknownProtocol name)

def fatTreeTopology (arity limit : Nat) : Except TraceError Topology :=
  if FatTree.isArity arity then
    match FatTree.nodeCount? arity with
    | none => .error (.fatTreeUncountable arity)
    | some nodeCount =>
      if nodeCount ≤ limit then
        (Topology.ofBlueprint (FatTree.build arity).blueprint).mapError .badTopology
      else .error (.fatTreeTooLarge arity nodeCount limit)
  else .error (.noSuchFatTree arity)

def readTopology (files : Files) (o : Options) (config : Config) :
    Except TraceError Topology :=
  match o.topology, o.fatTreeArity with
  | some path, _ => do
    let text ← (files path).mapError (.unreadableTopology path)
    (Topology.ofText text).mapError .badTopology
  | none, some arity => fatTreeTopology arity config.maxNodes
  | none, none => .error .noTopology

def ofOptions (files : Files) (o : Options) : Except TraceError Setup := do
  let config ← readConfig files o.config
  let protocol ← readProtocol o.protocol
  let topology ← readTopology files o config
  let router ← (Router.ofTopology topology config).mapError .badRoute
  return { topology, router, protocol }

def checkNode (s : Setup) (node : Nat) : Except TraceError Unit :=
  if s.topology.contains node then .ok () else .error (.outOfRange node s.topology.size)

def primaryAddress (s : Setup) (node : Nat) : Except TraceError Address :=
  match s.router.addresses.primary? node with
  | some address => .ok address
  | none => .error (.noAddress node)

/-- The flow between the first interfaces of two nodes. -/
def flowBetween (s : Setup) (source destination : Nat) (sourcePort destinationPort : UInt16) :
    Except TraceError Flow := do
  let sourceAddress ← s.primaryAddress source
  let destinationAddress ← s.primaryAddress destination
  if s.protocol = Flow.tcpProtocol then
    return .tcp sourceAddress destinationAddress sourcePort destinationPort
  else if s.protocol = Flow.udpProtocol then
    return .udp sourceAddress destinationAddress sourcePort destinationPort
  else return .other sourceAddress destinationAddress s.protocol

def path? (s : Setup) (source destination : Nat) (sourcePort destinationPort : UInt16) :
    Except TraceError (Option (List Nat)) := do
  let flow ← s.flowBetween source destination sourcePort destinationPort
  (s.router.path? source destination flow).mapError .badRoute

end Setup

end Multipath
