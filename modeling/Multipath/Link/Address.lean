/-!
# IPv4 addresses

An address is its 32 bits; the first octet is the highest. Addresses are ordered by
their bits.
-/

namespace Multipath

structure Address where
  bits : UInt32
deriving DecidableEq, Repr, Inhabited

namespace Address

instance : Ord Address := ⟨compareOn Address.bits⟩

instance : Std.TransOrd Address :=
  inferInstanceAs (Std.TransCmp (compareOn Address.bits))

instance : Std.LawfulEqOrd Address where
  eq_of_compare {x y} same := by
    have bits : x.bits = y.bits := Std.LawfulEqOrd.eq_of_compare same
    cases x
    cases y
    exact congrArg Address.mk bits

def ofOctets (a b c d : UInt8) : Address :=
  ⟨(a.toUInt32 <<< 24) ||| (b.toUInt32 <<< 16) ||| (c.toUInt32 <<< 8) ||| d.toUInt32⟩

/-- The four octets, first to last. -/
def octets (address : Address) : List UInt8 :=
  [(address.bits >>> 24).toUInt8, (address.bits >>> 16).toUInt8,
    (address.bits >>> 8).toUInt8, address.bits.toUInt8]

def dotted (address : Address) : String :=
  ".".intercalate (address.octets.map fun octet => toString octet.toNat)

instance : ToString Address := ⟨dotted⟩

end Address

end Multipath
