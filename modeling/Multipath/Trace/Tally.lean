import Multipath.Link.PairMap
import Multipath.Route.NextHops

/-!
# Tallies of flows

How many of a number of flows to one destination were routed, and how often each step
from a node to the next was taken where the node had a choice of next hops.
-/

namespace Multipath

structure Tally where
  routed : Nat
  unrouted : Nat
  steps : PairMap Nat

namespace Tally

def empty : Tally := ⟨0, 0, ∅⟩

def addStep (steps : PairMap Nat) (step : Nat × Nat) : PairMap Nat :=
  steps.insert step (steps[step]?.getD 0 + 1)

/-- The steps of a path at nodes with several next hops. -/
def choices (nextHops : NextHops) (destination : Nat) (path : List Nat) : List (Nat × Nat) :=
  (path.zip path.tail).filter fun step => 1 < (nextHops.get step.1 destination).length

def add (nextHops : NextHops) (destination : Nat) (tally : Tally) :
    Option (List Nat) → Tally
  | none => { tally with unrouted := tally.unrouted + 1 }
  | some path =>
    { tally with
      routed := tally.routed + 1
      steps := (choices nextHops destination path).foldl addStep tally.steps }

/-- The totals, and then the steps in ascending order. -/
def render (tally : Tally) : String :=
  let totals := s!"flows routed={tally.routed} no_route={tally.unrouted}\n"
  let rows := tally.steps.toList.map fun ((node, next), count) =>
    s!"next_hop node={node} next={next} flows={count}\n"
  totals ++ String.join rows

end Tally

end Multipath
