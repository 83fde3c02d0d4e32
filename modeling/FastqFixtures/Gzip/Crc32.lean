import FastqFixtures.Bytes

/-!
# CRC-32

The cyclic redundancy check of gzip trailers: the reflected polynomial `0xEDB88320`, register
started at all ones and inverted at the end, one table look-up a byte.

* `crcTable` — the remainder of each byte value.
* `crc32` — the check value of a byte string.
-/

namespace FastqFixtures.Gzip

set_option autoImplicit false

/-- Eight shift steps of the reflected polynomial applied to `c`. -/
def crcSteps : Nat → UInt32 → UInt32
  | 0, c => c
  | n + 1, c => crcSteps n (if c &&& 1 == 1 then (0xEDB88320 : UInt32) ^^^ (c >>> 1) else c >>> 1)

/-- The remainder of each byte value. -/
def crcTable : Array UInt32 := (Array.range 256).map fun n => crcSteps 8 n.toUInt32

/-- Feeds one byte to the register. -/
def crcByte (c : UInt32) (b : UInt8) : UInt32 :=
  crcTable.getD ((c ^^^ b.toUInt32) &&& 0xFF).toNat 0 ^^^ (c >>> 8)

/-- The CRC-32 check value of a byte string. -/
def crc32 (bs : Bytes) : UInt32 := bs.foldl crcByte 0xFFFFFFFF ^^^ 0xFFFFFFFF

/-- The CRC-32 check value of a byte array. -/
def crc32Array (bs : ByteArray) : UInt32 := bs.foldl crcByte 0xFFFFFFFF ^^^ 0xFFFFFFFF

end FastqFixtures.Gzip
