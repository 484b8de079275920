import Multipath.Trace.Setup
import Multipath.Trace.Tally

/-!
# Reports of a trace

A report shows what the options ask about: the state of a node, and then the path of a
flow, or how a number of flows that differ in their source port spread over the next
hops.

* The first failure ends the report. What was shown before it stays.
* All of the second part is shown together, so a failure in it leaves the state of the
  node, if that was asked for, and nothing else.
-/

namespace Multipath

/-- What is shown, and the failure that ended it. -/
structure Report where
  output : String
  failure : Option TraceError
deriving DecidableEq, Repr

namespace Report

/-- The status that a trace ends with: 1 after a failure. -/
def status (report : Report) : UInt32 := if report.failure.isSome then 1 else 0

def stateText (s : Setup) : Option Nat → Except TraceError String
  | none => .ok ""
  | some node => do
    s.checkNode node
    return s.router.stateText node

def pathText : Option (List Nat) → String
  | none => "no_route\n"
  | some path => "path " ++ " -> ".intercalate (path.map toString) ++ "\n"

/-- The tally of `count` flows, whose source ports go up by one and wrap around. -/
def tally (s : Setup) (source destination count : Nat) (sourcePort destinationPort : UInt16) :
    Except TraceError Tally :=
  (List.range count).foldlM
    (fun tally i => do
      let path ← s.path? source destination (sourcePort + UInt16.ofNat i) destinationPort
      return tally.add s.router.nextHops destination path)
    Tally.empty

def flowText (s : Setup) (o : Options) : Except TraceError String :=
  match o.ends with
  | none => .ok ""
  | some (source, destination) => do
    s.checkNode source
    s.checkNode destination
    match o.flows with
    | none =>
      return pathText (← s.path? source destination o.sourcePort o.destinationPort)
    | some count =>
      return (← tally s source destination count o.sourcePort o.destinationPort).render

def ofOptions (files : Files) (o : Options) : Report :=
  match Setup.ofOptions files o with
  | .error failure => ⟨"", some failure⟩
  | .ok s =>
    match stateText s o.state with
    | .error failure => ⟨"", some failure⟩
    | .ok state =>
      match flowText s o with
      | .error failure => ⟨state, some failure⟩
      | .ok flows => ⟨state ++ flows, none⟩

end Report

end Multipath
