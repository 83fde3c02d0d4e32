import FastqFixtures.Text.Quoted

/-!
# Decimal numerals

Writing and reading whole numbers as text.

* `decimal` — the shortest signed numeral; `zeroPadded` pads with zeros after the sign to a
  width that counts the sign.
* `readInteger` — reads a signed 64-bit integer: an optional sign, then digits. In decimal
  mode only the digits `0`–`9`; in prefixed mode a leading `0b`, `0o`, `0x` or `0` selects
  base 2, 8, 16 or 8, and underscores may separate digits. A value outside the 64-bit range
  is a range fault, any other misfit a syntax fault; the first fault met from the left wins.
* `readBoolean` — the truth-value spellings `1 t T TRUE true True` and their opposites.
-/

namespace FastqFixtures.Text

set_option autoImplicit false

/-- The decimal digits of a natural number. -/
def digits (n : Nat) : Bytes := (Nat.toDigits 10 n).map fun ch => ch.toNat.toUInt8

/-- The shortest decimal numeral of an integer, with a minus sign when negative. -/
def decimal (n : Int) : Bytes := if n < 0 then 45 :: digits n.natAbs else digits n.natAbs

/-- A decimal numeral padded with zeros after the sign to `width` bytes, the sign included. -/
def zeroPadded (width : Nat) (n : Int) : Bytes :=
  let ds := digits n.natAbs
  if n < 0 then 45 :: (List.replicate (width - 1 - ds.length) 48 ++ ds)
  else List.replicate (width - ds.length) 48 ++ ds

/-- Why a numeral is refused. -/
inductive NumberFault where
  | malformed
  | range
  deriving DecidableEq, Repr

/-- The words of a number fault. -/
def NumberFault.words : NumberFault → Bytes
  | .malformed => text "invalid syntax"
  | .range => text "value out of range"

/-- The value of a digit in any base up to 36: `0`–`9`, then letters of either case. -/
def digitValue (b : UInt8) : Option Nat :=
  if 48 ≤ b ∧ b ≤ 57 then some (b.toNat - 48)
  else
    let l := b ||| 0x20
    if 97 ≤ l ∧ l ≤ 122 then some (l.toNat - 87) else none

/-- The largest unsigned 64-bit value. -/
def maxWord : Nat := Nat.pow 2 64 - 1

/-- Reads the digits of `bs` in `base` onto `acc`, skipping underscores when `separated`;
the flag of the result tells whether an underscore was seen. -/
def readDigits (base : Nat) (separated : Bool) (acc : Nat) (seen : Bool) :
    Bytes → Except NumberFault (Nat × Bool)
  | [] => .ok (acc, seen)
  | b :: bs =>
    if separated && b == 95 then readDigits base separated acc true bs
    else
      match digitValue b with
      | some d =>
        if d ≥ base then .error .malformed
        else if acc * base + d > maxWord then .error .range
        else readDigits base separated (acc * base + d) seen bs
      | none => .error .malformed

/-- What the last byte read was, for the placement of underscores. -/
inductive Saw where
  | start
  | digit
  | underscore
  | other

/-- Scans for underscores that do not stand between digits (or after a base prefix). -/
def underscoresFrom (hexadecimal : Bool) (saw : Saw) : Bytes → Bool
  | [] => match saw with
    | .underscore => false
    | _ => true
  | b :: bs =>
    if (48 ≤ b ∧ b ≤ 57) || (hexadecimal && 97 ≤ (b ||| 0x20) && (b ||| 0x20) ≤ 102) then
      underscoresFrom hexadecimal .digit bs
    else if b == 95 then
      match saw with
      | .digit => underscoresFrom hexadecimal .underscore bs
      | _ => false
    else
      match saw with
      | .underscore => false
      | _ => underscoresFrom hexadecimal .other bs

/-- Whether every underscore of a prefixed numeral separates digits. -/
def underscoresFit (s : Bytes) : Bool :=
  let body := match s with
    | 43 :: r => r
    | 45 :: r => r
    | _ => s
  match body with
  | 48 :: x :: rest =>
    let l := x ||| 0x20
    if l == 98 || l == 111 || l == 120 then underscoresFrom (l == 120) .digit rest
    else underscoresFrom false .start body
  | _ => underscoresFrom false .start body

/-- The base a prefixed numeral announces, and its digits. -/
def basePrefix : Bytes → Nat × Bytes
  | 48 :: x :: y :: rest =>
    let l := x ||| 0x20
    if l == 98 then (2, y :: rest)
    else if l == 111 then (8, y :: rest)
    else if l == 120 then (16, y :: rest)
    else (8, x :: y :: rest)
  | 48 :: rest => (8, rest)
  | s => (10, s)

/-- Reads an unsigned numeral below 2^64. -/
def readUnsigned (prefixed : Bool) (s : Bytes) : Except NumberFault Nat :=
  if s.isEmpty then .error .malformed
  else
    let (base, body) := if prefixed then basePrefix s else (10, s)
    match readDigits base prefixed 0 false body with
    | .error e => .error e
    | .ok (n, seen) => if seen && !underscoresFit s then .error .malformed else .ok n

/-- Reads a signed 64-bit integer, decimal or (when `prefixed`) with a base prefix. -/
def readInteger (prefixed : Bool) (s : Bytes) : Except NumberFault Int :=
  if s.isEmpty then .error .malformed
  else
    let (negative, body) := match s with
      | 43 :: r => (false, r)
      | 45 :: r => (true, r)
      | _ => (false, s)
    match readUnsigned prefixed body with
    | .error e => .error e
    | .ok n =>
      if negative then (if n > Nat.pow 2 63 then .error .range else .ok (-(n : Int)))
      else (if n ≥ Nat.pow 2 63 then .error .range else .ok n)

/-- Reads a truth value. -/
def readBoolean (s : Bytes) : Option Bool :=
  if s == text "1" || s == text "t" || s == text "T" || s == text "TRUE" || s == text "true" ||
      s == text "True" then some true
  else if s == text "0" || s == text "f" || s == text "F" || s == text "FALSE" ||
      s == text "false" || s == text "False" then some false
  else none

end FastqFixtures.Text
