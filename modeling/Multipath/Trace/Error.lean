import Multipath.Config.Basic
import Multipath.Route.Error
import Multipath.Topology.Basic

/-!
# Failures of a trace

Each failure of a trace names its cause. What a file or a topology is faulted for comes
from the module that reads it, and is wrapped here with the path where there is one.
-/

namespace Multipath

/-- Why there is no text at a path. -/
inductive ReadFailure
  | missing
  | directory
  | notDirectory
  | denied
  | nameTooLong
  | invalidEncoding
  | other (reason : String)
deriving DecidableEq, Repr

namespace ReadFailure

def message : ReadFailure → String
  | missing => "No such file or directory (os error 2)"
  | directory => "Is a directory (os error 21)"
  | notDirectory => "Not a directory (os error 20)"
  | denied => "Permission denied (os error 13)"
  | nameTooLong => "File name too long (os error 36)"
  | invalidEncoding => "stream did not contain valid UTF-8"
  | other reason => reason

end ReadFailure

inductive TraceError
  | unreadableConfig (path : String) (cause : ReadFailure)
  | badConfig (cause : ConfigError)
  | unknownProtocol (name : String)
  | noTopology
  | unreadableTopology (path : String) (cause : ReadFailure)
  | badTopology (cause : TopologyError)
  | noSuchFatTree (arity : Nat)
  | fatTreeTooLarge (arity nodeCount limit : Nat)
  | fatTreeUncountable (arity : Nat)
  | badRoute (cause : RouteError)
  | outOfRange (node size : Nat)
  | noAddress (node : Nat)
deriving DecidableEq, Repr

namespace TraceError

def message : TraceError → String
  | unreadableConfig path cause =>
    s!"failed to read config {Text.quote path}: {cause.message}"
  | badConfig cause => cause.message
  | unknownProtocol name => s!"unknown protocol: {name} (expected tcp, udp, or 0-255)"
  | noTopology => "either --topology or --fat-tree-k is required"
  | unreadableTopology path cause =>
    s!"failed to read topology file {Text.quote path}: {cause.message}"
  | badTopology cause => cause.message
  | noSuchFatTree arity => s!"fat-tree k must be even and >= 2, got {arity}"
  | fatTreeTooLarge arity nodeCount limit =>
    s!"fat-tree k={arity} has {nodeCount} nodes, above max_nodes ({limit})"
  | fatTreeUncountable arity => s!"fat-tree k={arity} node count overflows"
  | badRoute cause => cause.message
  | outOfRange node size => s!"node {node} is out of range [0, {size})"
  | noAddress node => s!"node {node} has no interface address"

end TraceError

end Multipath
