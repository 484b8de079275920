/-!
# The 32-bit Murmur3 hash

The bytes are taken in blocks of four, each read as a little-endian word, and mixed
into a state that starts as the seed. The last one to three bytes are read as a word
with leading zeros. In the end the length is added and the bits are spread.

* Every step on the state (`mixBlock`, `spread`) is a bijection for a fixed block, and
  so is every step on the block (`scramble`).
-/

namespace Multipath.Murmur

def rotateLeft (word amount : UInt32) : UInt32 :=
  (word <<< amount) ||| (word >>> (32 - amount))

def wordOfBytes (bytes : List UInt8) : UInt32 :=
  bytes.foldr (fun byte word => (word <<< 8) ||| byte.toUInt32) 0

def scramble (block : UInt32) : UInt32 :=
  rotateLeft (block * 0xcc9e2d51) 15 * 0x1b873593

def mixBlock (state block : UInt32) : UInt32 :=
  rotateLeft (state ^^^ scramble block) 13 * 5 + 0xe6546b64

/-- The state after all bytes. A tail of no bytes leaves it as it is. -/
def absorb (state : UInt32) : List UInt8 → UInt32
  | a :: b :: c :: d :: rest => absorb (mixBlock state (wordOfBytes [a, b, c, d])) rest
  | tail => state ^^^ scramble (wordOfBytes tail)

def spread (state : UInt32) : UInt32 :=
  let state := (state ^^^ (state >>> 16)) * 0x85ebca6b
  let state := (state ^^^ (state >>> 13)) * 0xc2b2ae35
  state ^^^ (state >>> 16)

def hash (seed : UInt32) (bytes : List UInt8) : UInt32 :=
  spread (absorb seed bytes ^^^ UInt32.ofNat bytes.length)

end Multipath.Murmur
