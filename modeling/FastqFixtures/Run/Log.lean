import FastqFixtures.Text.Decimal

/-!
# Log entries

What a run reports as it goes, as data: a level, a message and named values. How entries are
written out is the business of the command line.

* `LogLevel`, `LogValue`, `LogEntry`.
* `LogLevel.shown` — whether an entry of a level is written.
-/

namespace FastqFixtures.Run

open FastqFixtures.Text

set_option autoImplicit false

/-- The severity of a log entry. -/
inductive LogLevel where
  | debug
  | info
  | warning
  deriving DecidableEq, Repr

/-- A value attached to a log entry. -/
inductive LogValue where
  | str (s : Bytes)
  | int (n : Int)
  deriving DecidableEq, Repr

/-- A log entry: level, message and named values, in the order they were attached. -/
structure LogEntry where
  level : LogLevel
  message : Bytes
  fields : List (Bytes × LogValue)
  deriving DecidableEq, Repr

/-- The word of a level. -/
def LogLevel.word : LogLevel → Bytes
  | .debug => text "debug"
  | .info => text "info"
  | .warning => text "warning"

/-- Whether entries of level `l` are written: debug entries only when verbose. -/
def LogLevel.shown (verbose : Bool) (l : LogLevel) : Bool :=
  match l with
  | .debug => verbose
  | _ => true

/-- The text of an attached value. -/
def LogValue.text : LogValue → Bytes
  | .str s => s
  | .int n => decimal n

end FastqFixtures.Run
