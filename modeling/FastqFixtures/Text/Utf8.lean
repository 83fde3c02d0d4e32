import FastqFixtures.Bytes

/-!
# Reading bytes as UTF-8

A byte string is read as a sequence of glyphs: each well-formed UTF-8 sequence is one
character, and every byte that starts no well-formed sequence is a glyph of its own. This is
the reading under which case mapping, field splitting and quoting work on text that may hold
invalid bytes.

* `Glyph` — a character, or a stray byte.
* `decode` — the glyphs of a byte string; a well-formed sequence is the shortest one allowed
  by the lead byte (Unicode's table of well-formed byte sequences: no overlong forms, no
  surrogates, nothing above U+10FFFF), and a failed lead byte is consumed alone.
* `Glyph.toBytes` — writes a glyph back; `decode` then `toBytes` gives back the bytes.
-/

namespace FastqFixtures.Text

set_option autoImplicit false

/-- One unit of decoded text: a character, or a byte that starts no well-formed sequence. -/
inductive Glyph where
  | char (c : Char)
  | stray (b : UInt8)
  deriving DecidableEq, Repr

/-- The UTF-8 bytes of a character. -/
def encode (c : Char) : Bytes := String.utf8EncodeChar c

/-- The character a glyph reads as: a stray byte reads as the replacement character. -/
def Glyph.toChar : Glyph → Char
  | .char c => c
  | .stray _ => '�'

/-- The bytes a glyph was read from. -/
def Glyph.toBytes : Glyph → Bytes
  | .char c => encode c
  | .stray b => [b]

/-- A continuation byte lies in `lo..hi`. -/
def within (lo hi b : UInt8) : Bool := lo ≤ b && b ≤ hi

/-- The low six bits of a continuation byte. -/
def low6 (b : UInt8) : Nat := (b &&& 0x3F).toNat

/-- The character of a two-byte sequence. -/
def two (b0 b1 : UInt8) : Char := Char.ofNat ((b0 &&& 0x1F).toNat * 64 + low6 b1)

/-- The character of a three-byte sequence. -/
def three (b0 b1 b2 : UInt8) : Char :=
  Char.ofNat ((b0 &&& 0x0F).toNat * 4096 + low6 b1 * 64 + low6 b2)

/-- The character of a four-byte sequence. -/
def four (b0 b1 b2 b3 : UInt8) : Char :=
  Char.ofNat ((b0 &&& 0x07).toNat * 262144 + low6 b1 * 4096 + low6 b2 * 64 + low6 b3)

/-- The range of the second byte after a three-byte lead: `E0` excludes overlong forms and
`ED` excludes surrogates. -/
def secondOf3 (b0 : UInt8) : UInt8 × UInt8 :=
  if b0 == 0xE0 then (0xA0, 0xBF) else if b0 == 0xED then (0x80, 0x9F) else (0x80, 0xBF)

/-- The range of the second byte after a four-byte lead: `F0` excludes overlong forms and
`F4` stops at U+10FFFF. -/
def secondOf4 (b0 : UInt8) : UInt8 × UInt8 :=
  if b0 == 0xF0 then (0x90, 0xBF) else if b0 == 0xF4 then (0x80, 0x8F) else (0x80, 0xBF)

/-- The well-formed sequence that starts with lead byte `b0` and goes on with `rest`: its
character and the number of continuation bytes it takes from `rest`. -/
def lead (b0 : UInt8) (rest : Bytes) : Option (Char × Nat) :=
  if b0 < 0x80 then some (Char.ofNat b0.toNat, 0)
  else if b0 < 0xC2 then none
  else if b0 < 0xE0 then
    match rest with
    | b1 :: _ => if within 0x80 0xBF b1 then some (two b0 b1, 1) else none
    | [] => none
  else if b0 < 0xF0 then
    match rest with
    | b1 :: b2 :: _ =>
      if within (secondOf3 b0).1 (secondOf3 b0).2 b1 && within 0x80 0xBF b2 then
        some (three b0 b1 b2, 2)
      else none
    | _ => none
  else if b0 < 0xF5 then
    match rest with
    | b1 :: b2 :: b3 :: _ =>
      if within (secondOf4 b0).1 (secondOf4 b0).2 b1 && within 0x80 0xBF b2 &&
          within 0x80 0xBF b3 then
        some (four b0 b1 b2 b3, 3)
      else none
    | _ => none
  else none

/-- The glyphs of a byte string. -/
def decode : Bytes → List Glyph
  | [] => []
  | b0 :: rest =>
    match lead b0 rest with
    | some (c, n) => .char c :: decode (rest.drop n)
    | none => .stray b0 :: decode rest
termination_by bs => bs.length
decreasing_by
  all_goals simp only [List.length_cons, List.length_drop]
  all_goals omega

/-- Writes glyphs back as bytes. -/
def glyphBytes (gs : List Glyph) : Bytes := gs.flatMap Glyph.toBytes

/-- Writes characters as UTF-8. -/
def encodeAll (cs : List Char) : Bytes := cs.flatMap encode

/-- Whether a byte string is well-formed UTF-8. -/
def isValid (bs : Bytes) : Bool :=
  (decode bs).all fun g => match g with
    | .char _ => true
    | .stray _ => false

end FastqFixtures.Text
