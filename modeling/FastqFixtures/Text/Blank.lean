import FastqFixtures.Text.Utf8

/-!
# Blanks and fields

A field is a maximal run of glyphs none of which is blank. The blank characters are those of
the Unicode White_Space property: tab, newline, vertical tab, form feed, carriage return,
space, U+0085, U+00A0, U+1680, U+2000 to U+200A, U+2028, U+2029, U+202F, U+205F and U+3000.
A stray byte is never blank, so it stays inside its field.

* `isBlank` — the White_Space property.
* `fields` — the fields of a byte string, in order, as bytes of the input.
* `trimBlank` — a byte string without blanks at either end.
-/

namespace FastqFixtures.Text

set_option autoImplicit false

/-- The White_Space property. -/
def isBlank (c : Char) : Bool :=
  let n := c.toNat
  (9 ≤ n && n ≤ 13) || n == 32 || n == 0x85 || n == 0xA0 || n == 0x1680 ||
    (0x2000 ≤ n && n ≤ 0x200A) || n == 0x2028 || n == 0x2029 || n == 0x202F ||
    n == 0x205F || n == 0x3000

/-- Whether a glyph separates fields. -/
def Glyph.isBlank (g : Glyph) : Bool :=
  match g with
  | .char c => Text.isBlank c
  | .stray _ => false

/-- Splits glyphs into fields; `cur` holds the field being read, reversed. -/
def splitFields (cur : List Glyph) : List Glyph → List (List Glyph)
  | [] => if cur.isEmpty then [] else [cur.reverse]
  | g :: gs =>
    if g.isBlank then
      if cur.isEmpty then splitFields [] gs else cur.reverse :: splitFields [] gs
    else splitFields (g :: cur) gs

/-- The fields of a byte string. -/
def fields (bs : Bytes) : List Bytes := (splitFields [] (decode bs)).map glyphBytes

/-- Bytes without blank characters at either end. -/
def trimBlank (bs : Bytes) : Bytes :=
  glyphBytes (((decode bs).dropWhile Glyph.isBlank).reverse.dropWhile Glyph.isBlank).reverse

end FastqFixtures.Text
