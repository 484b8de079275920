import Multipath.Proofs.FatTree.Numbering
import Multipath.Proofs.Trace.Setups

/-!
# Fat trees within the limit

The nodes of a fat tree are counted before it is built, and the count is held against the limit
that the router is held to later. Both limits are about the same number, so a tree that is let
through is not refused for its size any more.

Results:
1. `exists_readTopology_iff`: which fat trees are let through.
2. `size_of_readTopology`: what is let through has as many nodes as were counted.
3. `readTopology_fatTree`: counting, building and reading fat trees, for all arities.
-/

namespace Multipath.Setup

variable {files : Files} {o : Options} {config : Config} {arity : ℕ}

section

variable (noFile : o.topology = none) (given : o.fatTreeArity = some arity)
include noFile given

theorem readTopology_of_fatTreeArity :
    readTopology files o config = fatTreeTopology arity config.maxNodes := by
  rw [readTopology, noFile, given]

theorem readTopology_ne_badTopology (cause : TopologyError) :
    readTopology files o config ≠ .error (.badTopology cause) := by
  rw [readTopology_of_fatTreeArity noFile given, Ne, fatTreeTopology_eq_error_iff]
  exact nofun

variable (fits : config.Fits)
include fits

theorem readTopology_eq_ok_iff_built {t : Topology} : readTopology files o config = .ok t ↔
    FatTree.isArity arity = true ∧ Topology.ofBlueprint (FatTree.build arity).blueprint = .ok t ∧
      t.size ≤ config.maxNodes := by
  rw [readTopology_of_fatTreeArity noFile given]
  exact fatTreeTopology_eq_ok_iff (show config.maxNodes < _ from fits .maxNodes)

theorem size_of_readTopology {t : Topology} (read : readTopology files o config = .ok t) :
    t.size = FatTree.nodeTotal arity := by
  obtain ⟨-, built, -⟩ := (readTopology_eq_ok_iff_built noFile given fits).1 read
  rw [(FatTree.realizes_build built).size, FatTree.nodeCount_build_eq_total]

theorem exists_readTopology_iff : (∃ t, readTopology files o config = .ok t) ↔
    FatTree.isArity arity = true ∧ FatTree.nodeTotal arity ≤ config.maxNodes := by
  constructor
  · rintro ⟨t, read⟩
    obtain ⟨even, -, allowed⟩ := (readTopology_eq_ok_iff_built noFile given fits).1 read
    exact ⟨even, size_of_readTopology noFile given fits read ▸ allowed⟩
  · rintro ⟨even, allowed⟩
    obtain ⟨t, built, realizes⟩ := Topology.exists_realizes (FatTree.valid_build arity)
    rw [← FatTree.nodeCount_build_eq_total, ← realizes.size] at allowed
    exact ⟨t, (readTopology_eq_ok_iff_built noFile given fits).2 ⟨even, built, allowed⟩⟩

end

/-- The nodes of a fat tree are counted as long as their number fits 64 bits. Building the tree
gives out as many ids. With a limit of 64 bits, the trees that are let through are those of an
even arity whose number of nodes is within the limit. Neither the topology nor the router refuses
one of them for its number of nodes. -/
theorem readTopology_fatTree (arity : ℕ) :
    (∀ count, FatTree.nodeCount? arity = some count ↔
      FatTree.nodeTotal arity < Word.wordBound ∧ count = FatTree.nodeTotal arity) ∧
    (FatTree.nodeCount? arity = none ↔ Word.wordBound ≤ FatTree.nodeTotal arity) ∧
    (2 ≤ arity → arity % 2 = 0 → FatTree.nodeTotal arity < Word.wordBound →
      FatTree.nodeTotal arity = arity ^ 3 / 4 + 5 * arity ^ 2 / 4 ∧
      FatTree.ofArity? arity = some (FatTree.numbered arity) ∧
      (FatTree.numbered arity).blueprint.nodeCount = FatTree.nodeTotal arity) ∧
    ∀ files o config, o.topology = none → o.fatTreeArity = some arity → config.Fits →
      ((∃ t, readTopology files o config = .ok t) ↔
        2 ≤ arity ∧ arity % 2 = 0 ∧ FatTree.nodeTotal arity ≤ config.maxNodes) ∧
      (∀ cause, readTopology files o config ≠ .error (.badTopology cause)) ∧
      ∀ t, readTopology files o config = .ok t → t.size = FatTree.nodeTotal arity ∧
        ∀ size limit, Router.ofTopology t config ≠ .error (.tooManyNodes size limit) := by
  refine ⟨fun count => FatTree.nodeCount?_eq_some_iff_total, ?_, fun large noRest countable => ?_,
    fun files o config noFile given fits => ⟨?_, ?_, fun t read => ?_⟩⟩
  · rw [FatTree.nodeCount?_eq_none_iff, FatTree.nodeCount_build_eq_total]
  · have even : FatTree.isArity arity = true := FatTree.isArity_iff.2 ⟨large, noRest⟩
    rw [FatTree.numbered_eq_build, FatTree.nodeCount_build_eq_total]
    rw [← FatTree.nodeCount_build_eq_total] at countable
    exact ⟨FatTree.nodeTotal_eq even, FatTree.ofArity?_eq_build even countable, rfl⟩
  · rw [exists_readTopology_iff noFile given fits, FatTree.isArity_iff, and_assoc]
  · exact readTopology_ne_badTopology noFile given
  · obtain ⟨-, -, allowed⟩ := (readTopology_eq_ok_iff_built noFile given fits).1 read
    exact ⟨size_of_readTopology noFile given fits read,
      Router.ofTopology_ne_tooManyNodes allowed⟩

def fourPods : Options where
  topology := none
  fatTreeArity := some 4
  config := none
  state := none
  ends := none
  protocol := "tcp"
  sourcePort := 0
  destinationPort := 0
  flows := none

/-- Four pods have 36 nodes, which is within the default limit. -/
theorem readTopology_fourPods : FatTree.ofArity? 4 = some (FatTree.numbered 4) ∧
    ∀ files : Files, ∃ t, readTopology files fourPods {} = .ok t ∧ t.size = 36 := by
  obtain ⟨-, -, built, reading⟩ := readTopology_fatTree 4
  refine ⟨(built (by decide) (by decide) (by decide)).2.1, fun files => ?_⟩
  obtain ⟨accepted, -, routed⟩ := reading files fourPods {} rfl rfl Config.fits_default
  obtain ⟨t, read⟩ := accepted.2 (by decide)
  exact ⟨t, read, (routed t read).1⟩

end Multipath.Setup
