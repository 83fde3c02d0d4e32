import FastqFixtures.Workspace
import FastqFixtures.Gzip.Member
import FastqFixtures.Text.Lines
import FastqFixtures.Text.Blank

/-!
# Pooling sample files

Merging per-sample gzip files into one file is byte concatenation: a run of gzip members is
itself a gzip stream, so nothing is recompressed. Counting the records of a pooled file reads
it back: decompressed when it starts with the gzip magic, every fourth line starting a record
with `@`, and no partial record at the end.

The reader of a pooled file gives two leading bytes a meaning of their own. After `|` comes a
command whose output is read: the text up to the first space once blanks are trimmed from
both ends. After `~` comes the name of a user, up to the first `/`, whose home directory the
rest of the path is under. No command and no user are known to this library, so both fail.

* `concat` — the bytes of every source, in order, into a fresh destination.
* `removeAll` — removes every path, carrying on past failures.
* `countRecords` — the number of four-line records in a file.
-/

namespace FastqFixtures.Pool

open FastqFixtures.Text

set_option autoImplicit false

/-- Appends each source to `dst` in turn; the first failure stops. Copying the endless
device writes zero bytes until the disk is full. -/
def appendAll (dst : Bytes) (w : Workspace) : List Bytes → Except Fault Unit × Workspace
  | [] => (.ok (), w)
  | src :: rest =>
    let appending (f : Fault) := Fault.within (text "appending " ++ src) f
    match w.openRead src with
    | .error f => (.error f, w)
    | .ok .directory => (.error (appending (.file .read src .isDir)), w)
    | .ok .zeros =>
      match w.append dst (List.replicate w.room 0) with
      | .error f => (.error (appending f), w)
      | .ok w => (.error (appending (.file .write dst .noSpace)), { w with room := 0 })
    | .ok (.contents c) =>
      match w.append dst c with
      | .error f => (.error (appending f), w)
      | .ok w => appendAll dst w rest

/-- Writes the bytes of every source, in order, to `dst`, replacing it. What was appended
before a failure stays. -/
def concat (w : Workspace) (dst : Bytes) (srcs : List Bytes) : Except Fault Unit × Workspace :=
  match w.create dst with
  | .error f => (.error f, w)
  | .ok w => appendAll dst w srcs

/-- Removes every path in turn, carrying on past failures; the first failure is reported. -/
def removeAll (w : Workspace) : List Bytes → Option Fault × Workspace
  | [] => (none, w)
  | p :: rest =>
    match w.remove p with
    | .error f => let (_, w) := removeAll w rest; (some f, w)
    | .ok w => removeAll w rest

/-- The buffer limit of the line reader of pooled files. -/
def recordLineLimit : Nat := 16 * Nat.pow 2 20

/-- The byte-order mark. -/
def byteOrderMark : Bytes := [0xEF, 0xBB, 0xBF]

/-- Checks that every line at an index divisible by four starts with `@`; `n` counts the lines
before `lines`. -/
def checkStarts (n : Nat) : List Bytes → Except Fault Unit
  | [] => .ok ()
  | line :: rest =>
    if n % 4 == 0 && line.head? != some 64 then .error (.recordStart (n + 1))
    else checkStarts (n + 1) rest

/-- The number of records in a stream whose reading delivered `data` and then ended with
`fault` (none at a clean end). -/
def countStream (data : Bytes) (fault : Option GzipFault) : Except Fault Nat :=
  let data := if byteOrderMark.isPrefixOf data then data.drop 3 else data
  let (lines, stop) := cutLines recordLineLimit data
  match checkStarts 0 lines with
  | .error f => .error f
  | .ok () =>
    if stop == .tooLong then .error .tooLong
    else
      match fault with
      | some g => .error (.gzip g)
      | none =>
        if lines.length % 4 != 0 then .error (.truncatedRecord lines.length)
        else .ok (lines.length / 4)

/-- Why the reader cannot open a path naming a command (after `|`) or a user's home directory
(after `~`); `none` for a plain path. -/
def specialPathFault? : Bytes → Option Fault
  | 124 :: rest =>
    match (trimBlank rest).takeWhile (· != 32) with
    | [] => some .noCommand
    | name => some (.commandNotFound name)
  | 126 :: rest => some (.unknownUser (rest.takeWhile (· != 47)))
  | _ => none

/-- The number of four-line records in the file at `path`. A file of fewer than two bytes, and
one that delivers no byte, holds none. An empty path stops the program. -/
def countRecords (w : Workspace) (path : Bytes) : Except Fault Nat :=
  if path.isEmpty then .error (.indexOutOfRange 0 0)
  else
    let inPath (f : Fault) : Except Fault Nat := .error (.within path f)
    match specialPathFault? path with
    | some f => inPath f
    | none =>
    match w.stat path with
    | .error f => inPath f
    | .ok .directory => inPath .directoryInput
    | .ok .zeros => inPath .tooLong
    | .ok (.contents c) =>
      if c.length < 2 then .ok 0
      else if Gzip.hasMagic c then
        match Gzip.unpack c.toByteArray with
        | .error g => inPath (.gzip g)
        | .ok u =>
          if u.data.size == 0 then .ok 0
          else (countStream u.data.toList u.fault).mapError (.within path)
      else (countStream c none).mapError (.within path)

end FastqFixtures.Pool
