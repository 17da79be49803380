import ArtifactPipeline.Text.Utf8

/-!
# Checksums

Numbers of sixteen or thirty-two bits that tell whether octets have changed on their way. They are sums of
the octets, or remainders of the polynomial that the bits spell.

* `remainder_nil` : the remainder of no octets takes in nothing.
-/

namespace ArtifactPipeline.Digest.Checksum

/-- Take eight bits into a remainder. -/
def shiftOctet (remainder : UInt32) (octet : UInt8) : UInt32 :=
  let step (r : UInt32) : UInt32 :=
    if r &&& 0x80000000 = 0 then r <<< 1 else (r <<< 1) ^^^ 0x04c11db7
  Nat.repeat step 8 (remainder ^^^ (octet.toUInt32 <<< 24))

/-- Take octets into a remainder. -/
def remainder (start : UInt32) (bytes : Bytes) : UInt32 := bytes.foldl shiftOctet start

theorem remainder_nil (start : UInt32) : remainder start [] = start := rfl

/-- The octets of a number, the lowest first and no zeros at the end. -/
def lengthOctets : (fuel : Nat) → Nat → Bytes
  | 0, _ => []
  | fuel + 1, n => if n = 0 then [] else UInt8.ofNat n :: lengthOctets fuel (n / 256)

/-- The remainder of octets and of their number, with all bits turned over. -/
def cyclic (bytes : Bytes) : UInt32 :=
  ~~~remainder (remainder 0 bytes) (lengthOctets 16 bytes.length)

/-- A sum that is turned by one bit before each octet is added. -/
def turning (bytes : Bytes) : Nat :=
  bytes.foldl (fun sum b => (sum / 2 + sum % 2 * 32768 + b.toNat) % 65536) 0

/-- The sum of the octets, folded to sixteen bits. -/
def plain (bytes : Bytes) : Nat :=
  let sum := bytes.foldl (fun n b => n + b.toNat) 0 % 4294967296
  let folded := sum % 65536 + sum / 65536
  folded % 65536 + folded / 65536

end ArtifactPipeline.Digest.Checksum
