import Multipath.Link.Table

/-!
# Errors of routing

That there is no route is an answer and not an error. Each of these says that a table
or the input does not fit: no route may be guessed from there.
-/

namespace Multipath

inductive RouteError
  | outOfRange (node size : Nat)
  | notANeighbor (node neighbor destination : Nat)
  | unknownAddress (address : Address)
  | routingLoop (source destination hops : Nat)
  | tooManyNodes (size limit : Nat)
  /-- A sum of hop counts leaves 32 bits. No matrix that can be kept has such a sum. -/
  | hopOverflow
  | badLinks (cause : LinkError)
deriving DecidableEq, Repr

namespace RouteError

def message : RouteError → String
  | outOfRange node size => s!"node {node} is out of node id range [0, {size})"
  | notANeighbor node neighbor destination =>
    s!"the selected next node {neighbor} is not a neighbor of node {node} " ++
      s!"(destination {destination})"
  | unknownAddress address => s!"IP address {address} is not mapped to a node id"
  | routingLoop source destination hops =>
    s!"routing loop from {source} to {destination}: exceeded {hops} hops"
  | tooManyNodes size limit => s!"cannot handle {size} nodes (limit is {limit})"
  | hopOverflow => "hop counts leave 32 bits"
  | badLinks cause => cause.message

end RouteError

end Multipath
