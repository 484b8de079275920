import Multipath.Text.Numeral
import Multipath.Text.Quoted
import Multipath.Topology.Properties
import Multipath.Word

/-!
# Blueprints of topologies

A blueprint is what a topology file says, before anything about it is checked as a
graph: counts, role lists and edges, in the order and orientation of the file.

* `Blueprint.ofText` reads it from a properties file. Each number fits 64 bits,
  each list is written `set(…)`, and no list has an entry twice.
* `Blueprint.render` writes such a file.
-/

namespace Multipath

structure Blueprint where
  nodeCount : Nat
  edgeCount : Nat
  switches : List Nat
  tors : List Nat
  servers : List Nat
  edges : List (Nat × Nat)
deriving DecidableEq, Repr

inductive BlueprintError
  | missingKey (key : String)
  | illFormedLine (line : IllFormedLine)
  | invalidInteger (value : String)
  | invalidSet (value : String)
  | duplicateEntry (set : String)
  | invalidEdge (token : String)
deriving DecidableEq, Repr

namespace BlueprintError

def message : BlueprintError → String
  | missingKey key => s!"necessary parameter '{key}' is not set"
  | illFormedLine line =>
    s!"line {line.number} is not of the form key=value: {Text.quote line.content}"
  | invalidInteger value => s!"value {Text.quote value} is not a non-negative integer"
  | invalidSet value => s!"set {Text.quote value} is not encased in set(...)"
  | duplicateEntry set => s!"set {Text.quote set} contains duplicates"
  | invalidEdge token => s!"edge {Text.quote token} is not of the form a-b"

end BlueprintError

namespace Properties

def read (text : String) : Except BlueprintError Properties :=
  (ofText text).mapError .illFormedLine

def require (known : Properties) (key : String) : Except BlueprintError String :=
  match known[key]? with
  | some value => .ok value
  | none => .error (.missingKey key)

end Properties

namespace Blueprint

/-- A number of 64 bits, with blanks around it or not. -/
def readWord? (numeral : List Char) : Option Nat :=
  Text.readNat? Word.wordBound (Text.trim numeral)

def readInteger (value : String) : Except BlueprintError Nat :=
  match readWord? value.toList with
  | some number => .ok number
  | none => .error (.invalidInteger value)

/-- What stands between the brackets of `set(…)`. -/
def setBody? : List Char → Option (List Char)
  | 's' :: 'e' :: 't' :: '(' :: rest =>
    if rest.getLast? = some ')' then some rest.dropLast else none
  | _ => none

/-- The entries of a set in their order. They are told apart by their texts. -/
def readSet (value : String) : Except BlueprintError (List String) :=
  let set := Text.trim value.toList
  match setBody? set with
  | none => .error (.invalidSet (String.ofList set))
  | some body =>
    if Text.trim body = [] then .ok []
    else
      let entries := (Text.pieces ',' body).map fun entry => String.ofList (Text.trim entry)
      if entries.Nodup then .ok entries else .error (.duplicateEntry (String.ofList set))

/-- A set of numbers. Two spellings of one number are duplicates as well. -/
def readIdSet (value : String) : Except BlueprintError (List Nat) := do
  let entries ← readSet value
  let ids ← entries.mapM readInteger
  if ids.Nodup then .ok ids
  else .error (.duplicateEntry (String.ofList (Text.trim value.toList)))

/-- An edge keeps its orientation. -/
def readEdge (token : String) : Except BlueprintError (Nat × Nat) :=
  match (Text.pieces '-' token.toList).map readWord? with
  | [some a, some b] => .ok (a, b)
  | _ => .error (.invalidEdge token)

def readEdges (value : String) : Except BlueprintError (List (Nat × Nat)) := do
  let entries ← readSet value
  entries.mapM readEdge

/-- The edges are read first, so of several faults theirs is the one reported. -/
def ofProperties (known : Properties) : Except BlueprintError Blueprint := do
  let edges ← known.require "undirected_edges" >>= readEdges
  let nodeCount ← known.require "num_nodes" >>= readInteger
  let edgeCount ← known.require "num_undirected_edges" >>= readInteger
  let switches ← known.require "switches" >>= readIdSet
  let tors ← known.require "switches_which_are_tors" >>= readIdSet
  let servers ← known.require "servers" >>= readIdSet
  return { nodeCount, edgeCount, switches, tors, servers, edges }

def ofText (text : String) : Except BlueprintError Blueprint :=
  Properties.read text >>= ofProperties

def renderSet (entries : List (List Char)) : List Char :=
  "set(".toList ++ Text.join ',' entries ++ [')']

def renderEdge (edge : Nat × Nat) : List Char :=
  Text.writeNat edge.1 ++ '-' :: Text.writeNat edge.2

def renderEntry (key : String) (value : List Char) : List Char :=
  key.toList ++ '=' :: value ++ ['\n']

def render (b : Blueprint) : String :=
  String.ofList
    (renderEntry "num_nodes" (Text.writeNat b.nodeCount) ++
      renderEntry "num_undirected_edges" (Text.writeNat b.edgeCount) ++
      renderEntry "switches" (renderSet (b.switches.map Text.writeNat)) ++
      renderEntry "switches_which_are_tors" (renderSet (b.tors.map Text.writeNat)) ++
      renderEntry "servers" (renderSet (b.servers.map Text.writeNat)) ++
      renderEntry "undirected_edges" (renderSet (b.edges.map renderEdge)))

end Blueprint

end Multipath
