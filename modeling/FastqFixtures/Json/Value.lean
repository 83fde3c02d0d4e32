import FastqFixtures.Text.Utf8

/-!
# JSON values

The values of a JSON document as they are read: numbers keep their literal text (the
reader of a field decides whether it fits), strings hold their decoded bytes, and objects
keep their members in document order, duplicates included.

* `JsonValue` — null, booleans, numbers, strings, arrays and objects.
* `unescape` — the bytes a string literal stands for.
-/

namespace FastqFixtures.Json

open FastqFixtures.Text

set_option autoImplicit false

/-- A JSON value. -/
inductive JsonValue where
  | null
  | bool (b : Bool)
  | number (literal : Bytes)
  | string (s : Bytes)
  | array (items : List JsonValue)
  | object (members : List (Bytes × JsonValue))
  deriving Inhabited

/-- The word for the kind of a value in messages about values of the wrong kind. -/
def JsonValue.kindWord : JsonValue → Bytes
  | .null => text "null"
  | .bool _ => text "bool"
  | .number _ => text "number"
  | .string _ => text "string"
  | .array _ => text "array"
  | .object _ => text "object"

/-- The value of four hexadecimal digits. -/
def hex4? : Bytes → Option Nat
  | [a, b, c, d] => do
    let a ← Bytes.hexValue? a
    let b ← Bytes.hexValue? b
    let c ← Bytes.hexValue? c
    let d ← Bytes.hexValue? d
    pure (((a * 16 + b) * 16 + c) * 16 + d)
  | _ => none

/-- The UTF-8 bytes of the replacement character U+FFFD, reversed. -/
def replacementRev : Bytes := [0xBD, 0xBF, 0xEF]

/-- The byte a one-letter escape stands for: `b f n r t` name controls, and any other letter
(a quote, a backslash or a slash) stands for itself. -/
def escaped (e : UInt8) : UInt8 :=
  if e == 98 then 8 else if e == 102 then 12 else if e == 110 then 10
  else if e == 114 then 13 else if e == 116 then 9 else e

/-- The code point of a `\uXXXX` escape at the head of `bs`. -/
def unicodeEscape? (bs : Bytes) : Option Nat :=
  if bs.take 2 == [92, 117] then hex4? ((bs.drop 2).take 4) else none

/-- The character of a surrogate pair, if `hi` and `lo` form one. -/
def surrogatePair? (hi lo : Nat) : Option Char :=
  if 0xD800 ≤ hi ∧ hi < 0xDC00 ∧ 0xDC00 ≤ lo ∧ lo < 0xE000 then
    some (Char.ofNat (0x10000 + (hi - 0xD800) * 0x400 + (lo - 0xDC00)))
  else none

/-- Decodes the body of a string literal onto `acc` (reversed): escapes are replaced by the
bytes they stand for, a surrogate pair by its character and a lone surrogate by U+FFFD, and
a byte that starts no well-formed UTF-8 sequence by U+FFFD. -/
def unescapeOnto (acc : Bytes) : Bytes → Bytes
  | [] => acc.reverse
  | b :: rest =>
    if b == 92 then
      match _h : rest with
      | [] => acc.reverse
      | e :: rest1 =>
        if e == 117 then
          match hex4? (rest1.take 4) with
          | none => unescapeOnto acc rest1
          | some n =>
            if 0xD800 ≤ n ∧ n < 0xE000 then
              match (unicodeEscape? (rest1.drop 4)).bind (surrogatePair? n) with
              | some ch => unescapeOnto ((encode ch).reverse ++ acc) (rest1.drop 10)
              | none => unescapeOnto (replacementRev ++ acc) (rest1.drop 4)
            else unescapeOnto ((encode (Char.ofNat n)).reverse ++ acc) (rest1.drop 4)
        else unescapeOnto (escaped e :: acc) rest1
    else if b < 0x80 then unescapeOnto (b :: acc) rest
    else
      match lead b rest with
      | some (ch, n) => unescapeOnto ((encode ch).reverse ++ acc) (rest.drop n)
      | none => unescapeOnto (replacementRev ++ acc) rest
termination_by bs => bs.length
decreasing_by
  all_goals simp_all only [List.length_cons, List.length_drop]
  all_goals omega

/-- The bytes a string literal's body stands for. -/
def unescape (body : Bytes) : Bytes := unescapeOnto [] body

end FastqFixtures.Json
