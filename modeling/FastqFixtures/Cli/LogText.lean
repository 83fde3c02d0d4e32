import FastqFixtures.Run.Log
import FastqFixtures.Text.Quoted
import FastqFixtures.Text.Decimal

/-!
# Log lines

Log entries written as `key=value` lines: the time, the level and the message, then the
attached values sorted by key. A value is written bare when it consists of ASCII letters,
digits and the marks `- . _ / @ ^ +` only (or is empty), and quoted with escapes otherwise.

* `logValue` — a value as written.
* `renderEntry` — the line of an entry.
* `renderLog` — the lines of the entries shown at a verbosity.
-/

namespace FastqFixtures.Cli

open FastqFixtures.Text FastqFixtures.Run

set_option autoImplicit false

/-- Whether a byte may stand in a bare value. -/
def bareByte (b : UInt8) : Bool :=
  (97 ≤ b && b ≤ 122) || (65 ≤ b && b ≤ 90) || (48 ≤ b && b ≤ 57) ||
    b == 45 || b == 46 || b == 95 || b == 47 || b == 64 || b == 94 || b == 43

/-- A value as written: bare or quoted. -/
def logValue (s : Bytes) : Bytes := if s.all bareByte then s else quoted s

/-- One key and value, with the space before it. -/
def keyValue (k v : Bytes) : Bytes := 32 :: k ++ 61 :: logValue v

/-- The line of an entry logged at time `time`. -/
def renderEntry (time : Bytes) (e : LogEntry) : Bytes :=
  let fields := e.fields.mergeSort fun a b => Bytes.lexLe a.1 b.1
  text "time=" ++ logValue time ++ keyValue (text "level") e.level.word ++
    keyValue (text "msg") e.message ++ fields.flatMap (fun (k, v) => keyValue k v.text) ++ [10]

/-- The lines of the entries shown at the given verbosity. -/
def renderLog (time : Bytes) (verbose : Bool) (entries : List LogEntry) : Bytes :=
  (entries.filter fun e => e.level.shown verbose).flatMap (renderEntry time)

end FastqFixtures.Cli
