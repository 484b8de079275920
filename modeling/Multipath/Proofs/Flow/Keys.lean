import Multipath.Flow.Hash
import Multipath.Proofs.Flow.Mixing

/-!
# Flows that the hash tells apart

The fields of a key have fixed places, so a key is read back field by field. A block of the hash
has four bytes, and most fields lie in one block together with the bars around them. Two flows
that differ in such a field only have keys that differ in one block only.

    | block   | bytes                                              |
    | 0, 1    | node                                               |
    | 2       | bar, three octets of the source                    |
    | 3       | its last octet, bar, two octets of the destination |
    | 4       | its last two octets, bar, protocol                 |
    | 5       | bar, source port, bar                              |
    | 6       | destination port                                   |

Results:
1. `key_inj`: keys are the same for the same node and fields only.
2. `hash_ne_of_sameOutsideBlock`: fields in one block of the key are enough for two hashes.
3. `hash_tells_apart`: which single fields change the hash, for every seed.
-/

namespace Multipath

/-! ## 1. Fields -/

theorem littleEndian_add (first second number : ℕ) :
    littleEndian (first + second) number =
      littleEndian first number ++ littleEndian second (number / 256 ^ first) := by
  induction first generalizing number with
  | zero => rw [Nat.zero_add, Nat.pow_zero, Nat.div_one, littleEndian, List.nil_append]
  | succ first ih =>
    rw [Nat.succ_add, littleEndian, littleEndian, ih, List.cons_append, Nat.div_div_eq_div_mul,
      Nat.pow_succ']

theorem littleEndian_inj {count n m : ℕ} (boundN : n < 256 ^ count) (boundM : m < 256 ^ count)
    (same : littleEndian count n = littleEndian count m) : n = m := by
  induction count generalizing n m with
  | zero => omega
  | succ count ih =>
    obtain ⟨low, high⟩ := List.cons.inj same
    have lowSame : n % 256 = m % 256 := congrArg UInt8.toNat low
    have highSame := ih (Nat.div_lt_of_lt_mul (Nat.pow_succ' ▸ boundN))
      (Nat.div_lt_of_lt_mul (Nat.pow_succ' ▸ boundM)) high
    omega

theorem Address.octets_injective : Function.Injective Address.octets := by
  intro address other same
  simp only [octets, List.cons.injEq, and_true, ← UInt8.toNat_inj, UInt32.toNat_toUInt8,
    UInt32.toNat_shiftRight] at same
  obtain ⟨first, second, third, fourth⟩ := same
  change address.bits.toNat >>> 24 % 256 = other.bits.toNat >>> 24 % 256 at first
  change address.bits.toNat >>> 16 % 256 = other.bits.toNat >>> 16 % 256 at second
  change address.bits.toNat >>> 8 % 256 = other.bits.toNat >>> 8 % 256 at third
  rw [Nat.shiftRight_eq_div_pow, Nat.shiftRight_eq_div_pow] at first second third
  have bits : address.bits.toNat = other.bits.toNat := by
    have bound := address.bits.toNat_lt
    have boundOther := other.bits.toNat_lt
    omega
  cases address
  cases other
  exact congrArg Address.mk (UInt32.toNat_inj.1 bits)

namespace Flow

/-- What the ports add to a key. -/
def portBytes : Option Ports → List UInt8
  | none => []
  | some ports =>
    fieldSeparator :: (littleEndian 2 ports.source.toNat ++
      fieldSeparator :: littleEndian 2 ports.destination.toNat)

theorem key_eq (node : UInt64) (flow : Flow) :
    flow.key node = littleEndian 8 node.toNat ++ fieldSeparator :: (flow.source.octets ++
      fieldSeparator :: (flow.destination.octets ++
        fieldSeparator :: flow.protocol :: portBytes flow.hashedPorts?)) := by
  unfold key keyFields
  cases flow.hashedPorts? with
  | none => rfl
  | some ports => rfl

theorem length_key (node : UInt64) (flow : Flow) :
    (flow.key node).length = (portBytes flow.hashedPorts?).length + 20 := by
  rw [key_eq]
  rfl

theorem portBytes_injective : Function.Injective portBytes := by
  intro ports other same
  match ports, other, same with
  | none, none, _ => rfl
  | some ⟨source, destination⟩, some ⟨source', destination'⟩, same =>
    obtain ⟨sources, destinations⟩ := List.append_inj (List.cons.inj same).2 rfl
    obtain rfl : source = source' :=
      UInt16.toNat_inj.1 (littleEndian_inj source.toNat_lt source'.toNat_lt sources)
    obtain rfl : destination = destination' := UInt16.toNat_inj.1
      (littleEndian_inj destination.toNat_lt destination'.toNat_lt (List.cons.inj destinations).2)
    rfl

theorem key_inj {node other : UInt64} {f g : Flow} (same : f.key node = g.key other) :
    node = other ∧ f.source = g.source ∧ f.destination = g.destination ∧
      f.protocol = g.protocol ∧ f.hashedPorts? = g.hashedPorts? := by
  rw [key_eq, key_eq] at same
  obtain ⟨nodes, same⟩ := List.append_inj same rfl
  obtain ⟨sources, same⟩ := List.append_inj (List.cons.inj same).2 rfl
  obtain ⟨destinations, same⟩ := List.append_inj (List.cons.inj same).2 rfl
  obtain ⟨protocols, ports⟩ := List.cons.inj (List.cons.inj same).2
  exact ⟨UInt64.toNat_inj.1 (littleEndian_inj node.toNat_lt other.toNat_lt nodes),
    Address.octets_injective sources, Address.octets_injective destinations, protocols,
    portBytes_injective ports⟩

theorem hashedPorts?_eq_some_iff {flow : Flow} {ports : Ports} :
    flow.hashedPorts? = some ports ↔
      (flow.protocol = tcpProtocol ∨ flow.protocol = udpProtocol) ∧ flow.ports = some ports := by
  unfold hashedPorts?
  split
  · next hashed => rw [and_iff_right hashed]
  · next unhashed => exact iff_of_false nofun fun hashed => unhashed hashed.1

/-- Ports that are there are hashed as they are, so only their absence can make a difference. -/
theorem hashedPorts?_congr {f g : Flow} (samePorts : f.ports = g.ports)
    (both : f.hashedPorts?.isSome = g.hashedPorts?.isSome) : f.hashedPorts? = g.hashedPorts? := by
  cases hashed : f.hashedPorts? with
  | none =>
    rw [hashed, Option.isSome_none, eq_comm, Option.isSome_eq_false_iff,
      Option.isNone_iff_eq_none] at both
    exact both.symm
  | some ports =>
    rw [hashed] at both
    obtain ⟨other, hashedOther⟩ := Option.isSome_iff_exists.1 both.symm
    have shown := (hashedPorts?_eq_some_iff.1 hashed).2
    have shownOther := (hashedPorts?_eq_some_iff.1 hashedOther).2
    rw [hashedOther, ← shown, ← shownOther, samePorts]

/-! ## 2. Blocks of a key -/

section

variable (node : UInt64) (flow : Flow)

/-- A small node leaves its four high bytes at zero. -/
theorem sameOutsideBlock_node {n m : UInt64} (smallN : n.toNat < 2 ^ 32)
    (smallM : m.toNat < 2 ^ 32) :
    Murmur.SameOutsideBlock 0 (flow.key n) (flow.key m) := by
  have high : ∀ {k : UInt64}, k.toNat < 256 ^ 4 →
      (littleEndian 8 k.toNat).drop 4 = littleEndian 4 0 := by
    intro k small
    rw [littleEndian_add 4 4, Nat.div_eq_of_lt small]
    rfl
  refine ⟨by rw [length_key, length_key], rfl, ?_⟩
  rw [key_eq, key_eq]
  exact congrArg (· ++ _) ((high smallN).trans (high smallM).symm)

theorem sameOutsideBlock_source_last {source : Address}
    (agree : source.octets.drop 3 = flow.source.octets.drop 3) :
    Murmur.SameOutsideBlock 2 (key node { flow with source }) (flow.key node) := by
  refine ⟨by rw [length_key, length_key]; rfl, ?_, ?_⟩ <;> rw [key_eq, key_eq]
  · rfl
  · exact congrArg (· ++ _) agree

theorem sameOutsideBlock_source_first {source : Address}
    (agree : source.octets.take 3 = flow.source.octets.take 3) :
    Murmur.SameOutsideBlock 3 (key node { flow with source }) (flow.key node) := by
  refine ⟨by rw [length_key, length_key]; rfl, ?_, ?_⟩ <;> rw [key_eq, key_eq]
  · exact congrArg (littleEndian 8 node.toNat ++ fieldSeparator :: ·) agree
  · rfl

theorem sameOutsideBlock_destination_last {destination : Address}
    (agree : destination.octets.drop 2 = flow.destination.octets.drop 2) :
    Murmur.SameOutsideBlock 3 (key node { flow with destination }) (flow.key node) := by
  refine ⟨by rw [length_key, length_key]; rfl, ?_, ?_⟩ <;> rw [key_eq, key_eq]
  · rfl
  · exact congrArg (· ++ _) agree

theorem sameOutsideBlock_destination_first {destination : Address}
    (agree : destination.octets.take 2 = flow.destination.octets.take 2) :
    Murmur.SameOutsideBlock 4 (key node { flow with destination }) (flow.key node) := by
  refine ⟨by rw [length_key, length_key]; rfl, ?_, ?_⟩ <;> rw [key_eq, key_eq]
  · exact congrArg (fun front => littleEndian 8 node.toNat ++ fieldSeparator ::
      (flow.source.octets ++ fieldSeparator :: front)) agree
  · rfl

theorem sameOutsideBlock_protocol {protocol : UInt8}
    (samePorts : hashedPorts? { flow with protocol } = flow.hashedPorts?) :
    Murmur.SameOutsideBlock 4 (key node { flow with protocol }) (flow.key node) := by
  refine ⟨by rw [length_key, length_key, samePorts], ?_, ?_⟩ <;>
    rw [key_eq, key_eq, samePorts] <;> rfl

variable {flow} {ports : Ports} (hashed : flow.hashedPorts? = some ports)
include hashed

theorem hashedPorts?_with_ports (other : Ports) :
    hashedPorts? { flow with ports := some other } = some other :=
  hashedPorts?_eq_some_iff.2 ⟨(hashedPorts?_eq_some_iff.1 hashed).1, rfl⟩

theorem ports_of_key_eq {other : Ports}
    (same : key node { flow with ports := some other } = flow.key node) : other = ports := by
  have samePorts := (key_inj same).2.2.2.2
  rw [hashedPorts?_with_ports hashed, hashed] at samePorts
  exact Option.some.inj samePorts

theorem sameOutsideBlock_source_port (source : UInt16) :
    Murmur.SameOutsideBlock 5 (key node { flow with ports := some { ports with source } })
      (flow.key node) := by
  have changed := hashedPorts?_with_ports hashed { ports with source }
  refine ⟨by rw [length_key, length_key, changed, hashed]; rfl, ?_, ?_⟩ <;>
    rw [key_eq, key_eq, changed, hashed] <;> rfl

theorem sameOutsideBlock_destination_port (destination : UInt16) :
    Murmur.SameOutsideBlock 6 (key node { flow with ports := some { ports with destination } })
      (flow.key node) := by
  have changed := hashedPorts?_with_ports hashed { ports with destination }
  refine ⟨by rw [length_key, length_key, changed, hashed]; rfl, ?_, ?_⟩ <;>
    rw [key_eq, key_eq, changed, hashed] <;> rfl

end

/-! ## 3. Flows that differ in one field -/

theorem hash_ne_of_sameOutsideBlock {index : ℕ} {node other : UInt64} {f g : Flow}
    (outside : Murmur.SameOutsideBlock index (f.key node) (g.key other))
    (apart : f.key node ≠ g.key other) (seed : UInt32) : f.hash seed node ≠ g.hash seed other :=
  fun same => apart (Murmur.hash_inj_of_sameOutsideBlock outside same)

/-- Whatever the seed, two hashes differ when one of these differs and nothing else: the node, if
it fits in 32 bits; one of the ports, where ports are hashed; the protocol, if it does not decide
whether ports are hashed; the source in its last octet only or not in its last octet; the
destination in one half only. -/
theorem hash_tells_apart (seed : UInt32) :
    (∀ (flow : Flow) (n m : UInt64), n.toNat < 2 ^ 32 → m.toNat < 2 ^ 32 → n ≠ m →
      flow.hash seed n ≠ flow.hash seed m) ∧
    (∀ (flow : Flow) (node : UInt64) (ports : Ports),
      flow.protocol = tcpProtocol ∨ flow.protocol = udpProtocol → flow.ports = some ports →
      (∀ source, source ≠ ports.source →
        hash seed node { flow with ports := some { ports with source } } ≠ flow.hash seed node) ∧
      ∀ destination, destination ≠ ports.destination →
        hash seed node { flow with ports := some { ports with destination } } ≠
          flow.hash seed node) ∧
    (∀ (flow : Flow) (node : UInt64) (protocol : UInt8), protocol ≠ flow.protocol →
      (hashedPorts? { flow with protocol }).isSome = flow.hashedPorts?.isSome →
      hash seed node { flow with protocol } ≠ flow.hash seed node) ∧
    (∀ (flow : Flow) (node : UInt64) (source : Address), source ≠ flow.source →
      source.octets.drop 3 = flow.source.octets.drop 3 ∨
        source.octets.take 3 = flow.source.octets.take 3 →
      hash seed node { flow with source } ≠ flow.hash seed node) ∧
    ∀ (flow : Flow) (node : UInt64) (destination : Address), destination ≠ flow.destination →
      destination.octets.take 2 = flow.destination.octets.take 2 ∨
        destination.octets.drop 2 = flow.destination.octets.drop 2 →
      hash seed node { flow with destination } ≠ flow.hash seed node := by
  refine ⟨fun flow n m smallN smallM apart => ?_, fun flow node ports transport shown => ?_,
    fun flow node protocol apart both => ?_, fun flow node source apart agree => ?_,
    fun flow node destination apart agree => ?_⟩
  · exact hash_ne_of_sameOutsideBlock (sameOutsideBlock_node flow smallN smallM)
      (fun same => apart (key_inj same).1) seed
  · have hashed := hashedPorts?_eq_some_iff.2 ⟨transport, shown⟩
    constructor
    · intro source apart
      exact hash_ne_of_sameOutsideBlock (sameOutsideBlock_source_port node hashed source)
        (fun same => apart (congrArg Ports.source (ports_of_key_eq node hashed same))) seed
    · intro destination apart
      exact hash_ne_of_sameOutsideBlock (sameOutsideBlock_destination_port node hashed destination)
        (fun same => apart (congrArg Ports.destination (ports_of_key_eq node hashed same))) seed
  · have samePorts : hashedPorts? { flow with protocol } = flow.hashedPorts? :=
      hashedPorts?_congr rfl both
    exact hash_ne_of_sameOutsideBlock (sameOutsideBlock_protocol node flow samePorts)
      (fun same => apart (key_inj same).2.2.2.1) seed
  · have keys : key node { flow with source } ≠ flow.key node :=
      fun same => apart (key_inj same).2.1
    cases agree with
    | inl last =>
      exact hash_ne_of_sameOutsideBlock (sameOutsideBlock_source_last node flow last) keys seed
    | inr first =>
      exact hash_ne_of_sameOutsideBlock (sameOutsideBlock_source_first node flow first) keys seed
  · have keys : key node { flow with destination } ≠ flow.key node :=
      fun same => apart (key_inj same).2.2.1
    cases agree with
    | inl first =>
      exact hash_ne_of_sameOutsideBlock (sameOutsideBlock_destination_first node flow first) keys
        seed
    | inr last =>
      exact hash_ne_of_sameOutsideBlock (sameOutsideBlock_destination_last node flow last) keys seed

/-- A flow from 10.0.0.1 to 10.0.1.2, to the usual port of a web server. -/
def request : Flow := .tcp ⟨0x0a000001⟩ ⟨0x0a000102⟩ 10000 80

theorem request_told_apart :
    request.hash 7 1 ≠ request.hash 7 6 ∧
    hash 7 1 { request with ports := some ⟨10001, 80⟩ } ≠ request.hash 7 1 ∧
    hash 7 1 { request with ports := some ⟨10000, 443⟩ } ≠ request.hash 7 1 ∧
    hash 7 1 { request with protocol := udpProtocol } ≠ request.hash 7 1 ∧
    hash 7 1 { request with source := ⟨0x0a000501⟩ } ≠ request.hash 7 1 ∧
    hash 7 1 { request with source := ⟨0x0a000009⟩ } ≠ request.hash 7 1 ∧
    hash 7 1 { request with destination := ⟨0x0a00ff09⟩ } ≠ request.hash 7 1 ∧
    hash 7 1 { request with destination := ⟨0x0b010102⟩ } ≠ request.hash 7 1 := by
  obtain ⟨nodes, ports, protocols, sources, destinations⟩ := hash_tells_apart 7
  obtain ⟨sourcePorts, destinationPorts⟩ := ports request 1 ⟨10000, 80⟩ (Or.inl rfl) rfl
  exact ⟨nodes request 1 6 (by decide) (by decide) (by decide), sourcePorts 10001 (by decide),
    destinationPorts 443 (by decide), protocols request 1 udpProtocol (by decide) (by decide),
    sources request 1 ⟨0x0a000501⟩ (by decide) (Or.inl (by decide)),
    sources request 1 ⟨0x0a000009⟩ (by decide) (Or.inr (by decide)),
    destinations request 1 ⟨0x0a00ff09⟩ (by decide) (Or.inl (by decide)),
    destinations request 1 ⟨0x0b010102⟩ (by decide) (Or.inr (by decide))⟩

end Flow

end Multipath
