import Multipath.Text.Numeral
import Multipath.Word

/-!
# Options of a trace

A command line is a list of long options, each with a value: `--name value` or
`--name=value`. There are no other arguments, but a lone `--` may stand at the end.

* `Options.ofArgs?` fails on an unknown or repeated option and on a missing or
  ill-formed value.
* A value that is an argument of its own must not look like an option. A single dash
  does not.
* There is one source of the topology at most, and a flow has both ends or none.
-/

namespace Multipath

inductive Flag
  | topology
  | fatTreeArity
  | config
  | state
  | source
  | destination
  | protocol
  | sourcePort
  | destinationPort
  | flows
deriving DecidableEq, Repr

namespace Flag

def name : Flag → String
  | topology => "topology"
  | fatTreeArity => "fat-tree-k"
  | config => "config"
  | state => "state"
  | source => "src"
  | destination => "dst"
  | protocol => "protocol"
  | sourcePort => "src-port"
  | destinationPort => "dst-port"
  | flows => "flows"

def all : List Flag :=
  [topology, fatTreeArity, config, state, source, destination, protocol, sourcePort,
    destinationPort, flows]

def ofName? (name : String) : Option Flag := all.find? (·.name = name)

/-- The flag of an argument, with the value that stands in the same argument. -/
def ofArg? (arg : String) : Option (Flag × Option String) :=
  match arg.toList with
  | '-' :: '-' :: body => do
    let flag ← ofName? (String.ofList (body.takeWhile (· ≠ '=')))
    match body.dropWhile (· ≠ '=') with
    | [] => return (flag, none)
    | _ :: value => return (flag, some (String.ofList value))
  | _ => none

end Flag

structure Options where
  topology : Option String
  fatTreeArity : Option Nat
  config : Option String
  state : Option Nat
  ends : Option (Nat × Nat)
  protocol : String
  sourcePort : UInt16
  destinationPort : UInt16
  flows : Option Nat
deriving DecidableEq, Repr

namespace Options

def looksLikeOption (arg : String) : Bool :=
  arg.toList.head? = some '-' && arg ≠ "-"

/-- The options in the order of the arguments. -/
def settings? : List String → Option (List (Flag × String))
  | [] => some []
  | ["--"] => some []
  | arg :: rest =>
    match Flag.ofArg? arg with
    | none => none
    | some (flag, some value) => (settings? rest).map ((flag, value) :: ·)
    | some (flag, none) =>
      match rest with
      | [] => none
      | value :: rest =>
        if looksLikeOption value then none
        else (settings? rest).map ((flag, value) :: ·)

def path? (value : String) : Option String :=
  if value = "" then none else some value

def count? (value : String) : Option Nat :=
  Text.readNat? Word.wordBound value.toList

/-- A signed number that is a port. Of the negative numerals only those of zero are. -/
def port? (value : String) : Option Nat :=
  match value.toList with
  | '-' :: digits => Text.readDigits? 1 digits
  | numeral => Text.readNat? UInt16.size numeral

/-- The value of an option that may be left out. -/
def optional? {α : Type} (given : List (Flag × String)) (flag : Flag)
    (read? : String → Option α) : Option (Option α) :=
  match given.lookup flag with
  | none => some none
  | some value => (read? value).map some

def ends? : Option Nat → Option Nat → Option (Option (Nat × Nat))
  | some source, some destination => some (some (source, destination))
  | none, none => some none
  | _, _ => none

def ofSettings? (given : List (Flag × String)) : Option Options := do
  let topology ← optional? given .topology path?
  let fatTreeArity ← optional? given .fatTreeArity count?
  let config ← optional? given .config path?
  let state ← optional? given .state count?
  let source ← optional? given .source count?
  let destination ← optional? given .destination count?
  let sourcePort ← optional? given .sourcePort port?
  let destinationPort ← optional? given .destinationPort port?
  let flows ← optional? given .flows port?
  let ends ← ends? source destination
  if topology.isSome ∧ fatTreeArity.isSome then none
  else
    return {
      topology, fatTreeArity, config, state, ends, flows
      protocol := (given.lookup .protocol).getD "tcp"
      sourcePort := UInt16.ofNat (sourcePort.getD 10000)
      destinationPort := UInt16.ofNat (destinationPort.getD 80) }

def ofArgs? (args : List String) : Option Options := do
  let given ← settings? args
  if (given.map Prod.fst).Nodup then ofSettings? given else none

end Options

end Multipath
