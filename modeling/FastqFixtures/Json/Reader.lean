import FastqFixtures.Json.Value
import FastqFixtures.Text.Quoted
import FastqFixtures.Text.Blank

/-!
# Reading JSON

A document is read byte by byte by a machine that knows at every point what may come next;
the first byte that cannot come next is the syntax fault, named with the character that byte
starts (a byte that starts none is shown in hexadecimal) and with what was expected. A
malformed escape in a string is shown as written: the backslash and the letter, or for `\u`
the backslash and up to five more bytes. Input that ends before the document does, even inside
a number, a literal or an escape, is "unexpected end of JSON input"; only a number at the top
level may end with the input.

* `Mode` — what the reader expects; `Frame` — an open array or object.
* `SyntaxFault` and its message.
* `readJson` — the value of a document, or its first fault.
-/

namespace FastqFixtures.Json

open FastqFixtures.Text

set_option autoImplicit false

/-- Where the reader is inside a number literal. -/
inductive NumberPhase where
  | sign
  | zero
  | whole
  | point
  | fraction
  | exponent
  | exponentSign
  | exponentDigits

/-- What the reader expects next. -/
inductive Mode where
  | value
  | valueOrClose
  | keyOrClose
  | key
  /-- More of a string; `raw` holds its body so far, reversed. -/
  | text (raw : Bytes) (isKey : Bool)
  /-- The letter of an escape. -/
  | escape (raw : Bytes) (isKey : Bool)
  /-- The hexadecimal digits of a `\u` escape, `got` of them read. -/
  | unicode (raw : Bytes) (isKey : Bool) (got : Nat)
  /-- More of a number; `lit` holds it so far, reversed. -/
  | number (lit : Bytes) (phase : NumberPhase)
  /-- The rest of a literal word. -/
  | word (name : String) (rest : List Char) (value : JsonValue)
  | afterValue
  | finished

/-- An array or object still open, with what it holds so far (reversed). -/
inductive Frame where
  | array (items : List JsonValue)
  /-- An object; `key` is the key read for the value to come. -/
  | object (members : List (Bytes × JsonValue)) (key : Option Bytes)

/-- How deep arrays and objects may nest. -/
def maxDepth : Nat := 10000

/-- A syntax fault of a document. -/
inductive SyntaxFault where
  /-- A character that cannot come next, and what was expected. -/
  | unexpected (g : Glyph) (context : String)
  /-- A malformed escape sequence in a string, as written. -/
  | badEscape (written : Bytes)
  | tooDeep
  | endOfInput
  deriving Inhabited

/-- How a malformed escape sequence is shown: between backquotes, or quoted and escaped when it
holds a backquote, a blank, a replacement character, a stray byte or anything unprintable. -/
def escapeShown (written : Bytes) : Bytes :=
  let plain := (decode written).all fun g => match g with
    | .char c => c != '`' && c != '\uFFFD' && !isBlank c && isPrintable c
    | .stray _ => false
  if plain then [96] ++ written ++ [96] else quoted written

/-- The message of a syntax fault. -/
def SyntaxFault.message : SyntaxFault → Bytes
  | .unexpected g context => text "invalid character " ++ glyphLiteral g ++ text " " ++ text context
  | .badEscape written => text "invalid escape sequence " ++ escapeShown written ++ text " in string"
  | .tooDeep => text "exceeded max depth"
  | .endOfInput => text "unexpected end of JSON input"

/-- What is wrong with the byte just read. -/
inductive Refusal where
  /-- It cannot come next; the context says what was expected. -/
  | at_ (context : String)
  /-- It ends a malformed escape sequence, as written. -/
  | escape (written : Bytes)
  | tooDeep

/-- The syntax fault of a refused byte `b` followed by `rest`. -/
def Refusal.fault (b : UInt8) (rest : Bytes) : Refusal → SyntaxFault
  | .at_ context =>
    .unexpected (match lead b rest with
      | some (c, _) => .char c
      | none => .stray b) context
  | .escape written => .badEscape written
  | .tooDeep => .tooDeep

/-- The state of the reader. -/
structure Reader where
  mode : Mode
  stack : List Frame
  result : JsonValue

/-- Blank bytes between tokens. -/
def isSpace (b : UInt8) : Bool := b == 32 || b == 9 || b == 10 || b == 13

/-- Whether a byte is a decimal digit. -/
def isDigit (b : UInt8) : Bool := 48 ≤ b && b ≤ 57

/-- Whether a byte is a hexadecimal digit. -/
def isHexDigit (b : UInt8) : Bool := (Bytes.hexValue? b).isSome

/-- Hands a finished value to the innermost open frame. -/
def Reader.deliver (r : Reader) (v : JsonValue) : Reader :=
  match r.stack with
  | [] => { r with mode := .finished, result := v }
  | .array items :: up => { r with mode := .afterValue, stack := .array (v :: items) :: up }
  | .object members (some k) :: up =>
    { r with mode := .afterValue, stack := .object ((k, v) :: members) none :: up }
  | .object members none :: up =>
    { r with mode := .afterValue, stack := .object members none :: up }

/-- Closes the innermost frame and hands its value on. -/
def Reader.close (r : Reader) : Reader :=
  match r.stack with
  | .array items :: up => { r with stack := up }.deliver (.array items.reverse)
  | .object members _ :: up => { r with stack := up }.deliver (.object members.reverse)
  | [] => r

/-- Opens a frame, unless that nests too deep. -/
def Reader.open (r : Reader) (f : Frame) (next : Mode) : Except Refusal Reader :=
  if r.stack.length + 1 > maxDepth then .error .tooDeep
  else .ok { r with stack := f :: r.stack, mode := next }

/-- The reader after one byte where a value begins. -/
def Reader.beginValue (r : Reader) (b : UInt8) : Except Refusal Reader :=
  if isSpace b then .ok r
  else if b == 123 then r.open (.object [] none) .keyOrClose
  else if b == 91 then r.open (.array []) .valueOrClose
  else if b == 34 then .ok { r with mode := .text [] false }
  else if b == 45 then .ok { r with mode := .number [b] .sign }
  else if b == 48 then .ok { r with mode := .number [b] .zero }
  else if isDigit b then .ok { r with mode := .number [b] .whole }
  else if b == 116 then .ok { r with mode := .word "true" ['r', 'u', 'e'] (.bool true) }
  else if b == 102 then .ok { r with mode := .word "false" ['a', 'l', 's', 'e'] (.bool false) }
  else if b == 110 then .ok { r with mode := .word "null" ['u', 'l', 'l'] .null }
  else .error (.at_ "looking for beginning of value")

/-- The reader after one byte where a key begins. -/
def Reader.beginKey (r : Reader) (b : UInt8) : Except Refusal Reader :=
  if isSpace b then .ok r
  else if b == 34 then .ok { r with mode := .text [] true }
  else .error (.at_ "looking for beginning of object key string")

/-- The reader after one byte that follows a value. -/
def Reader.afterValue (r : Reader) (b : UInt8) : Except Refusal Reader :=
  match r.stack with
  | [] => if isSpace b then .ok { r with mode := .finished } else .error (.at_ "after top-level value")
  | .array items :: up =>
    if isSpace b then .ok r
    else if b == 44 then .ok { r with mode := .value, stack := .array items :: up }
    else if b == 93 then .ok r.close
    else .error (.at_ "after array element")
  | .object members (some k) :: up =>
    if isSpace b then .ok r
    else if b == 58 then .ok { r with mode := .value, stack := .object members (some k) :: up }
    else .error (.at_ "after object key")
  | .object members none :: up =>
    if isSpace b then .ok r
    else if b == 44 then .ok { r with mode := .key, stack := .object members none :: up }
    else if b == 125 then .ok r.close
    else .error (.at_ "after object key:value pair")

/-- Ends a number: its value is delivered and the byte that ended it is read afresh. -/
def Reader.endNumber (r : Reader) (lit : Bytes) (b : UInt8) : Except Refusal Reader :=
  (r.deliver (.number lit.reverse)).afterValue b

/-- The reader after one more byte of a number. -/
def Reader.numberStep (r : Reader) (lit : Bytes) (phase : NumberPhase) (b : UInt8) :
    Except Refusal Reader :=
  let more (p : NumberPhase) : Except Refusal Reader := .ok { r with mode := .number (b :: lit) p }
  match phase with
  | .sign =>
    if b == 48 then more .zero
    else if isDigit b then more .whole
    else .error (.at_ "in numeric literal")
  | .whole =>
    if isDigit b then more .whole
    else if b == 46 then more .point
    else if b == 101 || b == 69 then more .exponent
    else r.endNumber lit b
  | .zero =>
    if b == 46 then more .point
    else if b == 101 || b == 69 then more .exponent
    else r.endNumber lit b
  | .point =>
    if isDigit b then more .fraction
    else .error (.at_ "in numeric literal")
  | .fraction =>
    if isDigit b then more .fraction
    else if b == 101 || b == 69 then more .exponent
    else r.endNumber lit b
  | .exponent =>
    if b == 43 || b == 45 then more .exponentSign
    else if isDigit b then more .exponentDigits
    else .error (.at_ "in numeric literal")
  | .exponentSign =>
    if isDigit b then more .exponentDigits
    else .error (.at_ "in numeric literal")
  | .exponentDigits =>
    if isDigit b then more .exponentDigits
    else r.endNumber lit b

/-- The reader after one byte `b`, followed in the input by `rest`. -/
def Reader.step (r : Reader) (b : UInt8) (rest : Bytes) : Except Refusal Reader :=
  match r.mode with
  | .value => r.beginValue b
  | .valueOrClose => if b == 93 then .ok r.close else r.beginValue b
  | .keyOrClose =>
    if isSpace b then .ok r else if b == 125 then .ok r.close else r.beginKey b
  | .key => r.beginKey b
  | .text raw isKey =>
    if b == 34 then
      let s := unescape raw.reverse
      if isKey then
        match r.stack with
        | .object members _ :: up => .ok { r with mode := .afterValue, stack := .object members (some s) :: up }
        | _ => .ok { r with mode := .afterValue }
      else .ok (r.deliver (.string s))
    else if b == 92 then .ok { r with mode := .escape (b :: raw) isKey }
    else if b < 32 then .error (.at_ "in string")
    else .ok { r with mode := .text (b :: raw) isKey }
  | .escape raw isKey =>
    if b == 98 || b == 102 || b == 110 || b == 114 || b == 116 || b == 92 || b == 47 || b == 34 then
      .ok { r with mode := .text (b :: raw) isKey }
    else if b == 117 then .ok { r with mode := .unicode (b :: raw) isKey 0 }
    else .error (.escape [92, b])
  | .unicode raw isKey got =>
    if isHexDigit b then
      if got + 1 == 4 then .ok { r with mode := .text (b :: raw) isKey }
      else .ok { r with mode := .unicode (b :: raw) isKey (got + 1) }
    else .error (.escape (((raw.take (got + 2)).reverse ++ b :: rest).take 6))
  | .number lit phase => r.numberStep lit phase b
  | .word name rest v =>
    match rest with
    | [] => (r.deliver v).afterValue b
    | c :: more =>
      if b.toNat == c.toNat then
        if more.isEmpty then .ok (r.deliver v) else .ok { r with mode := .word name more v }
      else .error (.at_ ("in literal " ++ name ++ " (expecting '" ++ c.toString ++ "')"))
  | .afterValue => r.afterValue b
  | .finished => if isSpace b then .ok r else .error (.at_ "after top-level value")

/-- Runs the reader over the bytes. -/
def Reader.run (r : Reader) : Bytes → Except SyntaxFault Reader
  | [] => .ok r
  | b :: bs =>
    match r.step b bs with
    | .ok r' => r'.run bs
    | .error e => .error (e.fault b bs)

/-- Whether a number may end where it stands. -/
def NumberPhase.complete : NumberPhase → Bool
  | .zero | .whole | .fraction | .exponentDigits => true
  | _ => false

/-- The value of a JSON document, or its first syntax fault. -/
def readJson (doc : Bytes) : Except SyntaxFault JsonValue :=
  match (Reader.run ⟨.value, [], .null⟩ doc) with
  | .error e => .error e
  | .ok r =>
    match r.mode, r.stack with
    | .finished, _ => .ok r.result
    | .number lit phase, [] =>
      if phase.complete then .ok (.number lit.reverse) else .error .endOfInput
    | _, _ => .error .endOfInput

end FastqFixtures.Json
