import Multipath.Proofs.Flow.Buffers
import Multipath.Proofs.Flow.Keys
import Multipath.Proofs.Route.Forwarding

/-!
# Flows that are all the same to a router

A router looks at a flow through its key only. Two flows have one key when they agree on what the
key is made of, and ports belong to it for TCP and UDP only. So whatever its tables are, a router
sends such flows the same way.

Results:
1. `key_eq_iff`: one key stands for one node and for flows that are alike.
2. `decide_congr`, `path?_congr`, `decideHeader_congr`: flows that are alike get the same decisions
   and take the same path.
3. `key_exact`: keys, their lengths, and ports that no router sees.
-/

namespace Multipath

/-! ## 1. Keys -/

namespace Flow

/-- The flows agree on all that is hashed of them. -/
structure Alike (f g : Flow) : Prop where
  source : f.source = g.source
  destination : f.destination = g.destination
  protocol : f.protocol = g.protocol
  hashedPorts? : f.hashedPorts? = g.hashedPorts?

theorem key_eq_iff {node other : UInt64} {f g : Flow} :
    f.key node = g.key other ↔ node = other ∧ f.Alike g := by
  constructor
  · intro same
    obtain ⟨nodes, sources, destinations, protocols, ports⟩ := key_inj same
    exact ⟨nodes, sources, destinations, protocols, ports⟩
  · rintro ⟨rfl, alike⟩
    rw [key_eq, key_eq, alike.source, alike.destination, alike.protocol, alike.hashedPorts?]

theorem hashedPorts?_eq_none {flow : Flow} (noTcp : flow.protocol ≠ tcpProtocol)
    (noUdp : flow.protocol ≠ udpProtocol) : flow.hashedPorts? = none :=
  if_neg (not_or.2 ⟨noTcp, noUdp⟩)

/-- Ports of a protocol that has none make no difference. -/
theorem alike_with_ports {flow : Flow} (noTcp : flow.protocol ≠ tcpProtocol)
    (noUdp : flow.protocol ≠ udpProtocol) (ports : Option Ports) :
    Alike { flow with ports } flow where
  source := rfl
  destination := rfl
  protocol := rfl
  hashedPorts? := by
    rw [hashedPorts?_eq_none noTcp noUdp, @hashedPorts?_eq_none { flow with ports } noTcp noUdp]

/-- Without its ports a flow is hashed without ports, whatever its protocol. -/
theorem hashedPorts?_withoutPorts (flow : Flow) : flow.withoutPorts.hashedPorts? = none := by
  rw [Option.eq_none_iff_forall_ne_some]
  intro ports hashed
  cases (hashedPorts?_eq_some_iff.1 hashed).2

theorem Alike.withoutPorts {f g : Flow} (alike : f.Alike g) :
    f.withoutPorts.Alike g.withoutPorts where
  source := alike.source
  destination := alike.destination
  protocol := alike.protocol
  hashedPorts? := (hashedPorts?_withoutPorts f).trans (hashedPorts?_withoutPorts g).symm

theorem length_key_eq (node : UInt64) (flow : Flow) :
    (flow.key node).length = if flow.hashedPorts?.isSome then 26 else 20 := by
  rw [length_key]
  cases flow.hashedPorts? with
  | none => rfl
  | some ports => rfl

end Flow

/-! ## 2. Decisions -/

namespace Router

variable {f g : Flow} (alike : f.Alike g) (r : Router)
include alike

theorem hash_congr (node : ℕ) : r.hash node f = r.hash node g :=
  congrArg (Murmur.hash r.seed) (Flow.key_eq_iff.2 ⟨rfl, alike⟩)

theorem decide_congr (current source destination : ℕ) :
    r.decide current source destination f = r.decide current source destination g := by
  unfold decide
  rw [hash_congr alike]

theorem pathFrom_congr (source destination budget current : ℕ) :
    r.pathFrom source destination f budget current =
      r.pathFrom source destination g budget current := by
  induction budget generalizing current with
  | zero => rw [pathFrom.eq_def, pathFrom.eq_def, decide_congr alike]
  | succ budget ih =>
    rw [pathFrom.eq_def, pathFrom.eq_def, decide_congr alike]
    simp only [ih]

theorem path?_congr (source destination : ℕ) :
    r.path? source destination f = r.path? source destination g :=
  pathFrom_congr alike r source destination _ source

theorem decideHeader_congr (current : ℕ) : r.decideHeader current f = r.decideHeader current g := by
  unfold decideHeader
  rw [alike.source, alike.destination]
  simp only [decide_congr alike, decide_congr alike.withoutPorts]

end Router

/-! ## 3. Flows that are told apart, and flows that are not -/

namespace Flow

/-- Two keys are the same for the same node and flows that agree on both addresses, the protocol
and the ports that are hashed, and for nothing else. A key has 26 bytes if it has ports and 20
otherwise, so a buffer of 26 takes every key. Flows of other protocols than TCP and UDP that differ
in their ports have the same decisions, by nodes or by headers, and the same paths, whatever the
tables of the router are. -/
theorem key_exact :
    (∀ (node other : UInt64) (f g : Flow), f.key node = g.key other ↔ node = other ∧ f.Alike g) ∧
    (∀ (node : UInt64) (flow : Flow),
      (flow.key node).length = (if flow.hashedPorts?.isSome then 26 else 20) ∧
      flow.keyIn? 26 node = some (flow.key node)) ∧
    ∀ (flow : Flow) (ports : Option Ports), flow.protocol ≠ tcpProtocol →
      flow.protocol ≠ udpProtocol → ∀ r : Router,
        (∀ current source destination, r.decide current source destination { flow with ports } =
          r.decide current source destination flow) ∧
        (∀ source destination, r.path? source destination { flow with ports } =
          r.path? source destination flow) ∧
        ∀ current, r.decideHeader current { flow with ports } = r.decideHeader current flow := by
  refine ⟨fun _ _ _ _ => key_eq_iff, fun node flow => ⟨length_key_eq node flow, ?_⟩, ?_⟩
  · have fits : (flow.key node).length ≤ 26 := by
      rw [length_key_eq]
      split <;> decide
    rw [keyIn?_eq, if_pos fits]
  · intro flow ports noTcp noUdp r
    have alike := alike_with_ports noTcp noUdp ports
    exact ⟨Router.decide_congr alike r, Router.path?_congr alike r,
      Router.decideHeader_congr alike r⟩

/-- A flow of protocol 1, which has no ports. -/
def ping : Flow := .other (.ofOctets 10 0 0 1) (.ofOctets 10 0 3 2) 1

theorem ping_ports_unseen : ping.protocol ≠ tcpProtocol ∧ ping.protocol ≠ udpProtocol ∧
    key 3 { ping with ports := some ⟨7, 9⟩ } = ping.key 3 ∧ ping.key 3 ≠ ping.key 4 ∧
    (ping.key 3).length = 20 ∧ ping.keyIn? 26 3 = some (ping.key 3) ∧
    ∃ r, Router.ofTopology .ring {} = .ok r ∧
      r.path? 0 3 { ping with ports := some ⟨7, 9⟩ } = r.path? 0 3 ping := by
  obtain ⟨keys, buffered, unseen⟩ := key_exact
  have noTcp : ping.protocol ≠ tcpProtocol := by decide
  have noUdp : ping.protocol ≠ udpProtocol := by decide
  obtain ⟨r, made⟩ := @Router.exists_ofTopology .ring {} (by decide) (by decide)
  obtain ⟨-, paths, -⟩ := unseen ping (some ⟨7, 9⟩) noTcp noUdp r
  refine ⟨noTcp, noUdp, (keys 3 3 _ _).2 ⟨rfl, alike_with_ports noTcp noUdp _⟩, ?_,
    (buffered 3 ping).1, (buffered 3 ping).2, r, made, paths 0 3⟩
  exact fun same => absurd ((keys 3 4 ping ping).1 same).1 (by decide)

end Flow

end Multipath
