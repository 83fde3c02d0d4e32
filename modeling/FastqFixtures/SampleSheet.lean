import Std.Data.HashMap
import FastqFixtures.Workspace
import FastqFixtures.Text.Lines
import FastqFixtures.Text.Blank

/-!
# Sample sheets

A sample sheet lists one sample a line: its id, its i7 and i5 barcodes, and its read count as
the last of at least four white-space separated fields (so both the four-column and the
seven-column layouts read the same). Lines shorter than five bytes, the header line (starting
`sample_id`) and comment lines (starting `#`) are skipped, and so are blank lines.

A row with fewer than four fields, a read count that is not a decimal 64-bit integer or is
negative, and a sample listed twice are refused, each with its line number (counting every
line). Lines are read with a buffer of 64 KiB: a longer line stops the reading after the rows
before it.

* `Entry` — one sample row.
* `parseSheet` — the rows of a sheet's bytes.
* `readSheet` — the rows of the sheet at a path of the working directory.
-/

namespace FastqFixtures.Sheet

open FastqFixtures.Text

set_option autoImplicit false

/-- One sample row. -/
structure Entry where
  sampleId : Bytes
  i7 : Bytes
  i5 : Bytes
  reads : Int
  deriving DecidableEq, Repr

/-- The buffer limit of the line reader. -/
def lineLimit : Nat := 65536

/-- Whether a line is skipped without a look at its fields. -/
def skipped (line : Bytes) : Bool :=
  line.length < 5 || (text "sample_id").isPrefixOf line || (text "#").isPrefixOf line

/-- The rows of `lines`, numbered from `n`; `seen` maps each id to its line, `acc` holds the
rows so far, reversed. -/
def parseRows (seen : Std.HashMap Bytes Nat) (acc : List Entry) (n : Nat) :
    List Bytes → Except Fault (List Entry)
  | [] => .ok acc.reverse
  | line :: rest =>
    let vals := fields line
    if skipped line || vals.isEmpty then parseRows seen acc (n + 1) rest
    else if vals.length < 4 then .error (.sheet (.fieldCount n vals.length))
    else
      let count := vals.getLastD []
      match readInteger false count with
      | .error _ => .error (.sheet (.readCount n count))
      | .ok reads =>
        if reads < 0 then .error (.sheet (.readCount n count))
        else
          let id := vals.headD []
          match seen.get? id with
          | some first => .error (.sheet (.duplicate n id first))
          | none =>
            parseRows (seen.insert id n) (⟨id, vals.getD 1 [], vals.getD 2 [], reads⟩ :: acc)
              (n + 1) rest

/-- The rows of a sheet, in order. -/
def parseSheet (bs : Bytes) : Except Fault (List Entry) :=
  let (lines, stop) := cutLines lineLimit bs
  match parseRows ∅ [] 1 lines with
  | .error f => .error f
  | .ok rows => if stop == .tooLong then .error .tooLong else .ok rows

/-- The rows of the sheet at `path`. Faults of opening the file are reported as they are; those
of reading and parsing it are prefixed with the path. -/
def readSheet (w : Workspace) (path : Bytes) : Except Fault (List Entry) :=
  match w.openRead path with
  | .error f => .error f
  | .ok .directory => .error (.within path (.file .read path .isDir))
  | .ok .zeros => .error (.within path .tooLong)
  | .ok (.contents c) =>
    match parseSheet c with
    | .error f => .error (.within path f)
    | .ok rows => .ok rows

end FastqFixtures.Sheet
