/-!
# Byte strings

Sample names, barcodes, paths and file contents are byte strings: they may hold any bytes,
and the messages of this library quote them as they are.

* `Bytes` is a list of bytes, and `text` gives the UTF-8 bytes of a string literal.
* `Bytes.lexLe` is the byte-wise order in which sets of barcodes and listings are sorted.
* `Bytes.hex` spells bytes as lowercase hexadecimal.
-/

namespace FastqFixtures

set_option autoImplicit false

/-- A byte string. -/
abbrev Bytes := List UInt8

/-- The UTF-8 bytes of a string. -/
def text (s : String) : Bytes := s.toUTF8.toList

namespace Bytes

/-- Byte-wise lexicographic order: a proper prefix comes first. -/
def lexLe : Bytes → Bytes → Bool
  | [], _ => true
  | _ :: _, [] => false
  | a :: as, b :: bs => if a < b then true else if b < a then false else lexLe as bs

/-- Sorts byte strings byte-wise (stable). -/
def sort (xs : List Bytes) : List Bytes := xs.mergeSort lexLe

/-- The lowercase hexadecimal digit of a value below sixteen. -/
def hexDigit (n : Nat) : UInt8 :=
  if n < 10 then (48 + n).toUInt8 else (87 + n).toUInt8

/-- Two lowercase hexadecimal digits of a byte. -/
def hexByte (b : UInt8) : Bytes := [hexDigit (b.toNat / 16), hexDigit (b.toNat % 16)]

/-- Lowercase hexadecimal spelling, two digits a byte. -/
def hex (bs : Bytes) : Bytes := bs.flatMap hexByte

/-- The value of one hexadecimal digit, either case. -/
def hexValue? (b : UInt8) : Option Nat :=
  if 48 ≤ b ∧ b ≤ 57 then some (b.toNat - 48)
  else if 97 ≤ b ∧ b ≤ 102 then some (b.toNat - 87)
  else if 65 ≤ b ∧ b ≤ 70 then some (b.toNat - 55)
  else none

/-- Reads hexadecimal text onto `acc` (reversed), two digits a byte. -/
def ofHexOnto (acc : Bytes) : Bytes → Option Bytes
  | [] => some acc.reverse
  | [_] => none
  | h :: l :: rest =>
    match hexValue? h, hexValue? l with
    | some hi, some lo => ofHexOnto ((hi * 16 + lo).toUInt8 :: acc) rest
    | _, _ => none

/-- Reads hexadecimal text two digits a byte; odd length or a non-digit gives `none`. -/
def ofHex? (bs : Bytes) : Option Bytes := ofHexOnto [] bs

/-- Splits at every occurrence of a byte; `splitOn 47 []` is `[[]]`. -/
def splitOn (sep : UInt8) (bs : Bytes) : List Bytes := bs.splitOnP (· == sep)

/-- Joins pieces with a separator between them. -/
def join (sep : Bytes) : List Bytes → Bytes
  | [] => []
  | [x] => x
  | x :: xs => x ++ sep ++ join sep xs

end Bytes

end FastqFixtures
