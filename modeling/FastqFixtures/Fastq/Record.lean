import FastqFixtures.Gzip.Member
import FastqFixtures.Workspace

/-!
# Records and record writers

A record is a name, a sequence and a quality string; it is written as four FASTQ lines, or
as two FASTA lines when it has no quality string. A record writer collects records for one
gzip file: creating it creates (or truncates) the file, and closing it writes the whole
stream. Closing twice is allowed; the second close does nothing.

* `Record`, `Record.format`.
* `RecordWriter` — `create`, `write`, `close`.
-/

namespace FastqFixtures.Fastq

set_option autoImplicit false

/-- A named sequence with its qualities. -/
structure Record where
  name : Bytes
  sequence : Bytes
  quality : Bytes
  deriving DecidableEq, Repr

/-- The text of a record: `@name`, the sequence, `+` and the qualities, each on a line; with no
qualities, `>name` and the sequence. -/
def Record.format (r : Record) : Bytes :=
  if r.quality.isEmpty then 62 :: r.name ++ 10 :: r.sequence ++ [10]
  else 64 :: r.name ++ 10 :: r.sequence ++ [10, 43, 10] ++ r.quality ++ [10]

/-- A writer of one gzip file of records. -/
structure RecordWriter where
  path : Bytes
  /-- The text of the records written so far, last record first. -/
  written : List Bytes
  closed : Bool

/-- Creates the file at `path` and a writer for it. -/
def RecordWriter.create (w : Workspace) (path : Bytes) : Except Fault (RecordWriter × Workspace) :=
  (w.create path).map fun w => (⟨path, [], false⟩, w)

/-- Adds a record. -/
def RecordWriter.write (rw : RecordWriter) (r : Record) : RecordWriter :=
  { rw with written := r.format :: rw.written }

/-- The text written so far. -/
def RecordWriter.text (rw : RecordWriter) : Bytes := rw.written.reverse.flatten

/-- Closes the writer: the file receives one gzip member of everything written. The fault is
that of the write; a closed writer closes again without one. -/
def RecordWriter.close (rw : RecordWriter) (w : Workspace) :
    Option Fault × RecordWriter × Workspace :=
  if rw.closed then (none, rw, w)
  else
    let rw := { rw with closed := true }
    match w.store rw.path (Gzip.gzipMember rw.text) with
    | .ok w => (none, rw, w)
    | .error f => (some f, rw, w)

end FastqFixtures.Fastq
