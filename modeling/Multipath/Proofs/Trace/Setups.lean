import Multipath.Proofs.Config.Limits
import Multipath.Proofs.FatTree.Neighbors
import Multipath.Proofs.Trace.Flows

/-!
# When a setup is made

A setup needs a configuration, a protocol and a topology within the limit of the configuration.
What each of them is read from is stated here without the order of the checks; the faults are
listed in that order.

Results:
1. `readConfig_eq_ok_iff`, `readProtocol_eq_ok_iff`, `readTopology_eq_ok_iff`: what the parts of a
   setup are read from, with `readConfig_eq_error_iff` and its like for the faults of each.
2. `Prepares.ofOptions_eq_ok`, `prepares_of_ofOptions`: a setup is made of its parts.
3. `ofOptions_eq_error_iff`: the faults of a setup.
-/

namespace Multipath.Setup

variable {files : Files} {o : Options}

/-! ## 1. Configurations -/

/-- The configuration that is asked for: the default one, or that of a file. -/
inductive Configures (files : Files) : Option String → Config → Prop
  | default : Configures files none {}
  | file {path text : String} {config : Config} (readable : files path = .ok text)
      (parsed : (Json.Value.ofText? text >>= Config.ofJson?) = some config)
      (ordered : config.warnNodes ≤ config.maxNodes) : Configures files (some path) config

inductive ConfigFault (files : Files) : Option String → TraceError → Prop
  | unreadable {path : String} {cause : ReadFailure} (unread : files path = .error cause) :
      ConfigFault files (some path) (.unreadableConfig path cause)
  | illFormed {path text : String} (readable : files path = .ok text)
      (unparsed : (Json.Value.ofText? text >>= Config.ofJson?) = none) :
      ConfigFault files (some path) (.badConfig .invalidJson)
  | crossed {path text : String} {config : Config} (readable : files path = .ok text)
      (parsed : (Json.Value.ofText? text >>= Config.ofJson?) = some config)
      (crossed : config.maxNodes < config.warnNodes) :
      ConfigFault files (some path) (.badConfig (.thresholds config.warnNodes config.maxNodes))

theorem readConfig_eq_ok_iff {given : Option String} {config : Config} :
    readConfig files given = .ok config ↔ Configures files given config := by
  cases given with
  | none =>
    constructor
    · rintro ⟨⟩
      exact .default
    · rintro ⟨⟩
      rfl
  | some path =>
    simp only [readConfig, bind_eq_ok_iff, mapError_eq_ok_iff, Config.ofText_eq_ok_iff]
    constructor
    · rintro ⟨text, readable, parsed, ordered⟩
      exact .file readable parsed ordered
    · rintro (_ | ⟨readable, parsed, ordered⟩)
      exact ⟨_, readable, parsed, ordered⟩

theorem readConfig_eq_error_iff {given : Option String} {fault : TraceError} :
    readConfig files given = .error fault ↔ ConfigFault files given fault := by
  cases given with
  | none => exact iff_of_false nofun nofun
  | some path =>
    simp only [readConfig, bind_eq_error_iff, mapError_eq_ok_iff, mapError_eq_error_iff,
      Config.ofText_eq_error_iff]
    constructor
    · rintro (⟨cause, unread, rfl⟩ | ⟨text, readable, cause, refused, rfl⟩)
      · exact .unreadable unread
      · rcases refused with ⟨unparsed, rfl⟩ | ⟨config, parsed, crossed, rfl⟩
        · exact .illFormed readable unparsed
        · exact .crossed readable parsed crossed
    · intro found
      cases found with
      | unreadable unread => exact Or.inl ⟨_, unread, rfl⟩
      | illFormed readable unparsed =>
        exact Or.inr ⟨_, readable, _, Or.inl ⟨unparsed, rfl⟩, rfl⟩
      | crossed readable parsed crossed =>
        exact Or.inr ⟨_, readable, _, Or.inr ⟨_, parsed, crossed, rfl⟩, rfl⟩

theorem Configures.fits {given : Option String} {config : Config}
    (configured : Configures files given config) : config.Fits := by
  cases configured with
  | default => exact Config.fits_default
  | file readable parsed ordered =>
    obtain ⟨value, -, read⟩ := Option.bind_eq_some_iff.1 parsed
    exact Config.fits_of_ofJson? read

/-! ## 2. Protocols -/

/-- A protocol is named in any case of its letters or given by its number. -/
inductive Names (name : String) : UInt8 → Prop
  | tcp (named : name.map Char.toLower = "tcp") : Names name Flow.tcpProtocol
  | udp (named : name.map Char.toLower = "udp") : Names name Flow.udpProtocol
  | number {number : ℕ}
      (read : Text.readNat? UInt8.size (name.map Char.toLower).toList = some number) :
      Names name (UInt8.ofNat number)

theorem readProtocol_eq_ok_iff {name : String} {protocol : UInt8} :
    readProtocol name = .ok protocol ↔ Names name protocol := by
  unfold readProtocol
  dsimp only
  constructor
  · intro read
    split at read
    · next named =>
      cases read
      exact .tcp named
    · split at read
      · next named =>
        cases read
        exact .udp named
      · split at read
        · next number found =>
          cases read
          exact .number found
        · cases read
  · intro names
    cases names with
    | tcp named => rw [if_pos named]
    | udp named =>
      rw [if_neg (named ▸ by decide), if_pos named]
    | number read =>
      -- neither of the two names is a numeral
      have unnamed : ∀ letters ∈ ["tcp", "udp"], name.map Char.toLower ≠ letters := by
        intro letters listed same
        have noNumber : ∀ letters ∈ ["tcp", "udp"],
            Text.readNat? UInt8.size letters.toList = none := by decide
        rw [same, noNumber letters listed] at read
        cases read
      rw [if_neg (unnamed "tcp" (by simp)), if_neg (unnamed "udp" (by simp)), read]

theorem readProtocol_eq_error_iff {name : String} {fault : TraceError} :
    readProtocol name = .error fault ↔ (¬ ∃ protocol, Names name protocol) ∧
      fault = .unknownProtocol (name.map Char.toLower) := by
  simp only [← readProtocol_eq_ok_iff]
  cases read : readProtocol name with
  | ok protocol => exact iff_of_false nofun fun unnamed => unnamed.1 ⟨protocol, rfl⟩
  | error found =>
    have unknown : found = .unknownProtocol (name.map Char.toLower) := by
      unfold readProtocol at read
      dsimp only at read
      split at read
      · cases read
      · split at read
        · cases read
        · split at read <;> cases read
          rfl
    rw [unknown, Except.error.injEq, eq_comm, and_iff_right]
    rintro ⟨protocol, ⟨⟩⟩

/-! ## 3. Topologies -/

/-- The topology that is asked for. A file comes first; a fat tree is built only if the limit
allows it. -/
inductive Yields (files : Files) (o : Options) (limit : ℕ) : Topology → Prop
  | file {path text : String} {t : Topology} (given : o.topology = some path)
      (readable : files path = .ok text) (accepted : Topology.ofText text = .ok t) :
      Yields files o limit t
  | fatTree {arity : ℕ} {t : Topology} (noFile : o.topology = none)
      (given : o.fatTreeArity = some arity) (even : FatTree.isArity arity = true)
      (built : Topology.ofBlueprint (FatTree.build arity).blueprint = .ok t)
      (allowed : t.size ≤ limit) : Yields files o limit t

inductive FatTreeFault (arity limit : ℕ) : TraceError → Prop
  | arity (uneven : FatTree.isArity arity = false) :
      FatTreeFault arity limit (.noSuchFatTree arity)
  | uncountable (even : FatTree.isArity arity = true)
      (many : Word.wordBound ≤ (FatTree.build arity).blueprint.nodeCount) :
      FatTreeFault arity limit (.fatTreeUncountable arity)
  | tooLarge (even : FatTree.isArity arity = true)
      (countable : (FatTree.build arity).blueprint.nodeCount < Word.wordBound)
      (large : limit < (FatTree.build arity).blueprint.nodeCount) :
      FatTreeFault arity limit
        (.fatTreeTooLarge arity (FatTree.build arity).blueprint.nodeCount limit)

inductive TopologyFault (files : Files) (o : Options) (limit : ℕ) : TraceError → Prop
  | unreadable {path : String} {cause : ReadFailure} (given : o.topology = some path)
      (unread : files path = .error cause) :
      TopologyFault files o limit (.unreadableTopology path cause)
  | refused {path text : String} {cause : TopologyError} (given : o.topology = some path)
      (readable : files path = .ok text) (refused : Topology.ofText text = .error cause) :
      TopologyFault files o limit (.badTopology cause)
  | fatTree {arity : ℕ} {fault : TraceError} (noFile : o.topology = none)
      (given : o.fatTreeArity = some arity) (found : FatTreeFault arity limit fault) :
      TopologyFault files o limit fault
  | missing (noFile : o.topology = none) (noTree : o.fatTreeArity = none) :
      TopologyFault files o limit .noTopology

theorem FatTreeFault.refused {arity limit : ℕ} {fault : TraceError}
    (found : FatTreeFault arity limit fault) : fatTreeTopology arity limit = .error fault := by
  cases found with
  | arity uneven => exact if_neg (uneven ▸ nofun)
  | uncountable even many =>
    rw [fatTreeTopology, if_pos even, FatTree.nodeCount?_eq_none_iff.2 many]
  | tooLarge even countable large =>
    rw [fatTreeTopology, if_pos even, FatTree.nodeCount?_eq_some countable]
    exact if_neg (Nat.not_le.2 large)

/-- What is built is accepted, so the size of a fat tree is all that may be wrong with it. -/
theorem fault_or_accepted (arity limit : ℕ) : (∃ fault, FatTreeFault arity limit fault) ∨
    ∃ t, FatTree.isArity arity = true ∧
      Topology.ofBlueprint (FatTree.build arity).blueprint = .ok t ∧ t.size ≤ limit ∧
      fatTreeTopology arity limit = .ok t := by
  cases even : FatTree.isArity arity with
  | false => exact Or.inl ⟨_, .arity even⟩
  | true =>
    cases Nat.lt_or_ge (FatTree.build arity).blueprint.nodeCount Word.wordBound with
    | inr many => exact Or.inl ⟨_, .uncountable even many⟩
    | inl countable =>
      cases Nat.lt_or_ge limit (FatTree.build arity).blueprint.nodeCount with
      | inl large => exact Or.inl ⟨_, .tooLarge even countable large⟩
      | inr allowed =>
        obtain ⟨t, built, realizes⟩ := Topology.exists_realizes (FatTree.valid_build arity)
        refine Or.inr ⟨t, rfl, built, realizes.size ▸ allowed, ?_⟩
        rw [fatTreeTopology, if_pos even, FatTree.nodeCount?_eq_some countable]
        dsimp only
        rw [if_pos allowed, built]
        rfl

theorem fatTreeTopology_eq_error_iff {arity limit : ℕ} {fault : TraceError} :
    fatTreeTopology arity limit = .error fault ↔ FatTreeFault arity limit fault := by
  refine ⟨fun failed => ?_, FatTreeFault.refused⟩
  cases fault_or_accepted arity limit with
  | inl faulty =>
    obtain ⟨other, found⟩ := faulty
    have refused := found.refused
    rw [failed] at refused
    cases refused
    exact found
  | inr accepted =>
    obtain ⟨t, -, -, -, made⟩ := accepted
    cases failed.symm.trans made

theorem fatTreeTopology_eq_ok_iff {arity limit : ℕ} {t : Topology} (fits : limit < Word.wordBound) :
    fatTreeTopology arity limit = .ok t ↔ FatTree.isArity arity = true ∧
      Topology.ofBlueprint (FatTree.build arity).blueprint = .ok t ∧ t.size ≤ limit := by
  constructor
  · intro made
    cases fault_or_accepted arity limit with
    | inl faulty =>
      obtain ⟨fault, found⟩ := faulty
      cases made.symm.trans found.refused
    | inr accepted =>
      obtain ⟨other, even, built, allowed, made'⟩ := accepted
      cases made.symm.trans made'
      exact ⟨even, built, allowed⟩
  · rintro ⟨even, built, allowed⟩
    rw [(FatTree.realizes_build built).size] at allowed
    rw [fatTreeTopology, if_pos even, FatTree.nodeCount?_eq_some (allowed.trans_lt fits)]
    dsimp only
    rw [if_pos allowed, built]
    rfl

theorem readTopology_eq_ok_iff {config : Config} {t : Topology} (fits : config.Fits) :
    readTopology files o config = .ok t ↔ Yields files o config.maxNodes t := by
  cases file : o.topology with
  | some path =>
    simp only [readTopology, file, bind_eq_ok_iff, mapError_eq_ok_iff]
    constructor
    · rintro ⟨text, readable, accepted⟩
      exact .file file readable accepted
    · intro yields
      cases yields with
      | file given readable accepted =>
        cases file.symm.trans given
        exact ⟨_, readable, accepted⟩
      | fatTree noFile => cases file.symm.trans noFile
  | none =>
    cases tree : o.fatTreeArity with
    | none =>
      simp only [readTopology, file, tree]
      refine iff_of_false (fun refused => by cases refused) fun yields => ?_
      cases yields with
      | file given => cases file.symm.trans given
      | fatTree noFile given => cases tree.symm.trans given
    | some arity =>
      simp only [readTopology, file, tree]
      rw [fatTreeTopology_eq_ok_iff (show config.maxNodes < _ from fits .maxNodes)]
      constructor
      · rintro ⟨even, built, allowed⟩
        exact .fatTree file tree even built allowed
      · intro yields
        cases yields with
        | file given => cases file.symm.trans given
        | fatTree noFile given even built allowed =>
          cases tree.symm.trans given
          exact ⟨even, built, allowed⟩

theorem readTopology_eq_error_iff {config : Config} {fault : TraceError} :
    readTopology files o config = .error fault ↔ TopologyFault files o config.maxNodes fault := by
  cases file : o.topology with
  | some path =>
    simp only [readTopology, file, bind_eq_error_iff, mapError_eq_error_iff, mapError_eq_ok_iff]
    constructor
    · rintro (⟨cause, unread, rfl⟩ | ⟨text, readable, cause, refused, rfl⟩)
      · exact .unreadable file unread
      · exact .refused file readable refused
    · intro found
      cases found with
      | unreadable given unread =>
        cases file.symm.trans given
        exact Or.inl ⟨_, unread, rfl⟩
      | refused given readable refused =>
        cases file.symm.trans given
        exact Or.inr ⟨_, readable, _, refused, rfl⟩
      | fatTree noFile => cases file.symm.trans noFile
      | missing noFile => cases file.symm.trans noFile
  | none =>
    cases tree : o.fatTreeArity with
    | none =>
      simp only [readTopology, file, tree]
      constructor
      · rintro ⟨⟩
        exact .missing file tree
      · intro found
        cases found with
        | unreadable given => cases file.symm.trans given
        | refused given => cases file.symm.trans given
        | fatTree noFile given => cases tree.symm.trans given
        | missing => rfl
    | some arity =>
      simp only [readTopology, file, tree]
      rw [fatTreeTopology_eq_error_iff]
      constructor
      · exact .fatTree file tree
      · intro found
        cases found with
        | unreadable given => cases file.symm.trans given
        | refused given => cases file.symm.trans given
        | fatTree noFile given found =>
          cases tree.symm.trans given
          exact found
        | missing noFile noTree => cases tree.symm.trans noTree

/-! ## 4. Setups -/

/-- The parts of a setup, with the topology within the limit. -/
structure Prepares (files : Files) (o : Options) (config : Config) (protocol : UInt8)
    (t : Topology) : Prop where
  configured : Configures files o.config config
  named : Names o.protocol protocol
  yields : Yields files o config.maxNodes t
  allowed : t.size ≤ config.maxNodes

/-- What is wrong with the parts of a setup, the first of them being named. -/
inductive Fault (files : Files) (o : Options) : TraceError → Prop
  | config {fault : TraceError} (found : ConfigFault files o.config fault) : Fault files o fault
  | protocol {config : Config} (configured : Configures files o.config config)
      (unnamed : ¬ ∃ protocol, Names o.protocol protocol) :
      Fault files o (.unknownProtocol (o.protocol.map Char.toLower))
  | topology {config : Config} {protocol : UInt8} {fault : TraceError}
      (configured : Configures files o.config config) (named : Names o.protocol protocol)
      (found : TopologyFault files o config.maxNodes fault) : Fault files o fault
  | tooMany {config : Config} {protocol : UInt8} {t : Topology}
      (configured : Configures files o.config config) (named : Names o.protocol protocol)
      (yields : Yields files o config.maxNodes t) (tooMany : config.maxNodes < t.size) :
      Fault files o (.badRoute (.tooManyNodes t.size config.maxNodes))

/-- All topologies that the options may lead to have links that can be numbered. -/
def Numberable (files : Files) (o : Options) : Prop :=
  ∀ config t, Configures files o.config config → Yields files o config.maxNodes t →
    t.edgeCount ≤ 16121856

theorem Prepares.ofOptions_eq_ok {config : Config} {protocol : UInt8} {t : Topology}
    {router : Router} (prepares : Prepares files o config protocol t)
    (routed : Router.ofTopology t config = .ok router) :
    ofOptions files o = .ok ⟨t, router, protocol⟩ :=
  ofOptions_eq_ok_iff.2 ⟨config, readConfig_eq_ok_iff.2 prepares.configured,
    readProtocol_eq_ok_iff.2 prepares.named,
    (readTopology_eq_ok_iff prepares.configured.fits).2 prepares.yields, routed⟩

variable (few : Numberable files o)
include few

theorem Prepares.exists_router {config : Config} {protocol : UInt8} {t : Topology}
    (prepares : Prepares files o config protocol t) :
    ∃ router, Router.ofTopology t config = .ok router :=
  Router.exists_ofTopology (few _ _ prepares.configured prepares.yields) prepares.allowed

theorem prepares_of_ofOptions {s : Setup} (set : ofOptions files o = .ok s) :
    ∃ config, Prepares files o config s.protocol s.topology ∧
      Router.ofTopology s.topology config = .ok s.router := by
  obtain ⟨config, configured, named, read, routed⟩ := ofOptions_eq_ok_iff.1 set
  rw [readConfig_eq_ok_iff] at configured
  rw [readProtocol_eq_ok_iff] at named
  rw [readTopology_eq_ok_iff configured.fits] at read
  refine ⟨config, ⟨configured, named, read, Nat.not_lt.1 fun tooMany => ?_⟩, routed⟩
  have refused := Router.ofTopology_eq_error (few config _ configured read) tooMany
  cases routed.symm.trans refused

theorem Fault.refused {fault : TraceError} (found : Fault files o fault) :
    ofOptions files o = .error fault := by
  unfold ofOptions
  cases found with
  | config found =>
    rw [readConfig_eq_error_iff.2 found]
    rfl
  | protocol configured unnamed =>
    rw [readConfig_eq_ok_iff.2 configured, ok_bind, readProtocol_eq_error_iff.2 ⟨unnamed, rfl⟩]
    rfl
  | topology configured named found =>
    rw [readConfig_eq_ok_iff.2 configured, ok_bind, readProtocol_eq_ok_iff.2 named, ok_bind,
      readTopology_eq_error_iff.2 found]
    rfl
  | tooMany configured named yields tooMany =>
    rw [readConfig_eq_ok_iff.2 configured, ok_bind, readProtocol_eq_ok_iff.2 named, ok_bind,
      (readTopology_eq_ok_iff configured.fits).2 yields, ok_bind,
      Router.ofTopology_eq_error (few _ _ configured yields) tooMany]
    rfl

theorem ofOptions_eq_error_iff {fault : TraceError} :
    ofOptions files o = .error fault ↔ Fault files o fault := by
  refine ⟨fun failed => ?_, Fault.refused few⟩
  unfold ofOptions at failed
  rcases bind_eq_error_iff.1 failed with misconfigured | ⟨config, configured, failed⟩
  · exact .config (readConfig_eq_error_iff.1 misconfigured)
  rw [readConfig_eq_ok_iff] at configured
  rcases bind_eq_error_iff.1 failed with misnamed | ⟨protocol, named, failed⟩
  · obtain ⟨unnamed, rfl⟩ := readProtocol_eq_error_iff.1 misnamed
    exact .protocol configured unnamed
  rw [readProtocol_eq_ok_iff] at named
  rcases bind_eq_error_iff.1 failed with refused | ⟨t, read, failed⟩
  · exact .topology configured named (readTopology_eq_error_iff.1 refused)
  rw [readTopology_eq_ok_iff configured.fits] at read
  rcases bind_eq_error_iff.1 failed with misrouted | ⟨router, -, ⟨⟩⟩
  obtain ⟨cause, unrouted, rfl⟩ := mapError_eq_error_iff.1 misrouted
  -- a topology within the limit has a router
  have tooMany : config.maxNodes < t.size := Nat.not_le.1 fun allowed => by
    obtain ⟨router, routed⟩ := Router.exists_ofTopology (few config t configured read) allowed
    cases routed.symm.trans unrouted
  rw [Router.ofTopology_eq_error (few config t configured read) tooMany] at unrouted
  cases unrouted
  exact .tooMany configured named read tooMany

end Multipath.Setup
