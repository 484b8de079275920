import Multipath.Flow.Basic
import Multipath.Flow.Murmur

/-!
# Hashing a flow at a node

`Flow.key` writes the node and the fields of a flow as bytes: the node in eight bytes,
both addresses, the protocol and, for TCP and UDP, both ports. Numbers are little-endian,
addresses are in network order, and a bar stands between two fields. All fields but the
optional ports have a fixed width, so a key is 20 bytes long, or 26 with ports.
-/

namespace Multipath

/-- The lowest `count` bytes of a number, lowest first. -/
def littleEndian : Nat → Nat → List UInt8
  | 0, _ => []
  | count + 1, number => UInt8.ofNat number :: littleEndian count (number / 256)

namespace Flow

def fieldSeparator : UInt8 := 0x7c

def keyFields (node : UInt64) (flow : Flow) : List (List UInt8) :=
  [littleEndian 8 node.toNat, flow.source.octets, flow.destination.octets, [flow.protocol]] ++
    match flow.hashedPorts? with
    | none => []
    | some ports => [littleEndian 2 ports.source.toNat, littleEndian 2 ports.destination.toNat]

def key (node : UInt64) (flow : Flow) : List UInt8 :=
  [fieldSeparator].intercalate (flow.keyFields node)

def hash (seed : UInt32) (node : UInt64) (flow : Flow) : UInt32 :=
  Murmur.hash seed (flow.key node)

end Flow

end Multipath
