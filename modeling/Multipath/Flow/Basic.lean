import Multipath.Link.Address

/-!
# Flows

A flow is given by the header fields of its packets. Ports are there when the
transport header can be read.
-/

namespace Multipath

structure Ports where
  source : UInt16
  destination : UInt16
deriving DecidableEq, Repr, Inhabited

structure Flow where
  source : Address
  destination : Address
  protocol : UInt8
  ports : Option Ports
deriving DecidableEq, Repr, Inhabited

namespace Flow

def tcpProtocol : UInt8 := 6

def udpProtocol : UInt8 := 17

def tcp (source destination : Address) (sourcePort destinationPort : UInt16) : Flow :=
  ⟨source, destination, tcpProtocol, some ⟨sourcePort, destinationPort⟩⟩

def udp (source destination : Address) (sourcePort destinationPort : UInt16) : Flow :=
  ⟨source, destination, udpProtocol, some ⟨sourcePort, destinationPort⟩⟩

def other (source destination : Address) (protocol : UInt8) : Flow :=
  ⟨source, destination, protocol, none⟩

/-- The ports that count for the flow's hash: only TCP and UDP have ports there. -/
def hashedPorts? (flow : Flow) : Option Ports :=
  if flow.protocol = tcpProtocol ∨ flow.protocol = udpProtocol then flow.ports else none

def withoutPorts (flow : Flow) : Flow := { flow with ports := none }

end Flow

end Multipath
