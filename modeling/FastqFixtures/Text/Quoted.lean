import FastqFixtures.Text.Printable

/-!
# Quoted text

Messages quote names, barcodes and fields so that every byte shows. A quoted text is the
text between double quotes with these escapes: the quote and the backslash get a backslash;
printable characters stand as themselves; bell, backspace, form feed, newline, carriage
return, tab and vertical tab are `\a \b \f \n \r \t \v`; other characters below U+0020 and
DEL are `\xHH`; other characters are `\uHHHH`, or `\UHHHHHHHH` above U+FFFF; a stray byte
is `\xHH`.

* `quoted` — a byte string between double quotes.
* `charLiteral`, `byteLiteral` — one character between single quotes (a byte stands for
  the character of the same number).
* `glyphLiteral` — one glyph between single quotes, a stray byte as `'\xhh'`.
-/

namespace FastqFixtures.Text

set_option autoImplicit false

/-- `width` lowercase hexadecimal digits of `n`, most significant first. -/
def hexDigits : Nat → Nat → Bytes
  | 0, _ => []
  | w + 1, n => hexDigits w (n / 16) ++ [Bytes.hexDigit (n % 16)]

/-- The escape of one character inside quotes `q`. -/
def escape (q : Char) (c : Char) : Bytes :=
  if c == q || c == '\\' then 92 :: encode c
  else if isPrintable c then encode c
  else if c == '\x07' then text "\\a"
  else if c == '\x08' then text "\\b"
  else if c == '\x0c' then text "\\f"
  else if c == '\n' then text "\\n"
  else if c == '\r' then text "\\r"
  else if c == '\t' then text "\\t"
  else if c == '\x0b' then text "\\v"
  else if c.toNat < 0x20 || c.toNat == 0x7F then text "\\x" ++ hexDigits 2 c.toNat
  else if c.toNat < 0x10000 then text "\\u" ++ hexDigits 4 c.toNat
  else text "\\U" ++ hexDigits 8 c.toNat

/-- The escape of one glyph inside double quotes. -/
def escapeGlyph : Glyph → Bytes
  | .char c => escape '"' c
  | .stray b => text "\\x" ++ Bytes.hexByte b

/-- A byte string between double quotes, escaped. -/
def quoted (bs : Bytes) : Bytes := [34] ++ (decode bs).flatMap escapeGlyph ++ [34]

/-- One character between single quotes, escaped. -/
def charLiteral (c : Char) : Bytes := [39] ++ escape '\'' c ++ [39]

/-- The character of a byte's number between single quotes: byte `0xC3` is `'Ã'`. -/
def byteLiteral (b : UInt8) : Bytes := charLiteral (Char.ofNat b.toNat)

/-- A glyph between single quotes, escaped; a stray byte is written `'\xhh'`. -/
def glyphLiteral : Glyph → Bytes
  | .char c => charLiteral c
  | .stray b => text "'\\x" ++ Bytes.hexByte b ++ [39]

end FastqFixtures.Text
