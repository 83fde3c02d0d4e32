import FastqFixtures.Json.Reader
import FastqFixtures.Text.Decimal

/-!
# Faults

Every way an operation of this library can fail, as data: the cause is a constructor, and
its wording is one function, `Fault.message`. A fault raised inside a larger task is
wrapped with the task's context (`within`), which prefixes the message with the context and
a colon; the kind of a wrapped fault is the kind of the fault inside.

* `Errno` — the file-system errors a file operation reports.
* `OptionsFault`, `SheetFault`, `ConfigFault`, `GzipFault` — refusals of one family each.
* `Fault`, `Fault.message`, `Fault.kind`, `Fault.exitCode`.
-/

namespace FastqFixtures

open FastqFixtures.Text

set_option autoImplicit false

/-- A file-system error. -/
inductive Errno where
  | noEntry
  | notDir
  | isDir
  | notEmpty
  | noSpace
  | invalid
  | nameTooLong
  deriving DecidableEq, Repr

/-- The words of a file-system error. -/
def Errno.words : Errno → Bytes
  | .noEntry => text "no such file or directory"
  | .notDir => text "not a directory"
  | .isDir => text "is a directory"
  | .notEmpty => text "directory not empty"
  | .noSpace => text "no space left on device"
  | .invalid => text "invalid argument"
  | .nameTooLong => text "file name too long"

/-- A file operation, as named in its errors. -/
inductive FileOp where
  | openFile
  | stat
  | remove
  | read
  | write
  deriving DecidableEq, Repr

/-- The word of a file operation. -/
def FileOp.word : FileOp → Bytes
  | .openFile => text "open"
  | .stat => text "stat"
  | .remove => text "remove"
  | .read => text "read"
  | .write => text "write"

/-- Why synthesis options are refused. -/
inductive OptionsFault where
  | emptyOutput
  | readCount (n : Int)
  | readLength (n : Int)
  | emptyI7
  | umiLength (n : Int)
  | mismatches (n : Int)
  deriving DecidableEq, Repr

/-- Why a sample sheet is refused. -/
inductive SheetFault where
  | fieldCount (line got : Nat)
  | readCount (line : Nat) (field : Bytes)
  | duplicate (line : Nat) (sample : Bytes) (first : Nat)
  | noSamples (path : Bytes)
  | nothingToGenerate
  deriving DecidableEq, Repr

/-- Why a configuration is refused. -/
inductive ConfigFault where
  /-- The file is not JSON. -/
  | notJson (f : Json.SyntaxFault)
  /-- A value of the wrong kind: what was found, the field (none for the whole document)
  and the type wanted. -/
  | mismatch (found : Bytes) (field : Option Bytes) (wanted : Bytes)
  | noSheet
  | noOutput
  | readLength (n : Int)
  | umiLength (n : Int)
  | mismatches (n : Int)
  | readCount (n : Int)

/-- Why a compressed stream cannot be read. -/
inductive GzipFault where
  | header
  | checksum
  | truncated
  | ended
  /-- The compressed data is malformed, `offset` bytes into it. -/
  | corrupt (offset : Nat)
  | lengthCode
  deriving DecidableEq, Repr

/-- A sequence produced by two barcodes of a set. -/
structure Conflict where
  sequence : Bytes
  first : Bytes
  second : Bytes
  deriving DecidableEq, Repr

/-- Why an operation fails. -/
inductive Fault where
  | emptyBarcode
  /-- A byte outside `ACGTN` in the upper-cased barcode, at a 1-based position. -/
  | badBase (barcode : Bytes) (b : UInt8) (position : Nat)
  | negativeBound (m : Int)
  /-- Barcodes whose mismatch sets overlap. -/
  | ambiguous (m : Int) (conflicts : List Conflict)
  | options (o : OptionsFault)
  | sheet (s : SheetFault)
  | config (c : ConfigFault)
  | canceled
  /-- A file operation failed on a path. -/
  | file (op : FileOp) (path : Bytes) (errno : Errno)
  | tooLong
  | gzip (g : GzipFault)
  | directoryInput
  /-- A record line that does not start with `@`. -/
  | recordStart (line : Nat)
  | truncatedRecord (line : Nat)
  | recordCount (path : Bytes) (held want : Int)
  /-- A command line that cannot be run, with its message. -/
  | usage (message : Bytes)
  /-- An index past the end of a sequence: the program stops. -/
  | indexOutOfRange (index length : Nat)
  /-- A home directory asked for by the name of a user that does not exist. -/
  | unknownUser (name : Bytes)
  /-- A command to read from that is not found on the search path. -/
  | commandNotFound (name : Bytes)
  | noCommand
  /-- A fault met while doing what the context names. -/
  | within (context : Bytes) (inner : Fault)

/-- The message of an ambiguous barcode set: the count, then at most three conflicts. -/
def ambiguityMessage (m : Int) (conflicts : List Conflict) : Bytes :=
  text "ambiguous barcode set: " ++ decimal conflicts.length ++ text " sequence(s) shared at " ++
    decimal m ++ text " mismatch(es)" ++
    (conflicts.take 3).flatMap (fun c =>
      text "; " ++ c.sequence ++ text " from " ++ c.first ++ text " and " ++ c.second) ++
    (if conflicts.length > 3 then text ", ..." else [])

/-- The words after `invalid synthesis options: `. -/
def OptionsFault.words : OptionsFault → Bytes
  | .emptyOutput => text "empty output name"
  | .readCount n => text "read count " ++ decimal n
  | .readLength n => text "read length " ++ decimal n
  | .emptyI7 => text "empty i7"
  | .umiLength n => text "UMI length " ++ decimal n ++ text " not in [0, 12]"
  | .mismatches n => decimal n ++ text " mismatches not in [0, 2]"

/-- The words after `invalid sample sheet: `. -/
def SheetFault.words : SheetFault → Bytes
  | .fieldCount line got =>
    text "line " ++ decimal line ++ text ": want at least 4 fields, got " ++ decimal got
  | .readCount line field => text "line " ++ decimal line ++ text ": bad read count " ++ quoted field
  | .duplicate line sample first =>
    text "line " ++ decimal line ++ text ": sample " ++ sample ++ text " already listed on line " ++
      decimal first
  | .noSamples path => path ++ text " lists no samples"
  | .nothingToGenerate => text "no sample has reads to generate"

/-- The words after `invalid configuration: `. -/
def ConfigFault.words : ConfigFault → Bytes
  | .notJson f => f.message
  | .mismatch found field wanted =>
    text "json: cannot unmarshal " ++ found ++
      (match field with
        | some f => text " into Go struct field Config." ++ f
        | none => text " into Go value") ++
      text " of type " ++ wanted
  | .noSheet => text "no sample sheet"
  | .noOutput => text "no output prefix"
  | .readLength n => text "read length " ++ decimal n
  | .umiLength n => text "UMI length " ++ decimal n
  | .mismatches n => decimal n ++ text " mismatches"
  | .readCount n => text "read count " ++ decimal n

/-- The message of a compressed-stream fault. -/
def GzipFault.message : GzipFault → Bytes
  | .header => text "gzip: invalid header"
  | .checksum => text "gzip: invalid checksum"
  | .truncated => text "unexpected EOF"
  | .ended => text "EOF"
  | .corrupt offset => text "flate: corrupt input before offset " ++ decimal offset
  | .lengthCode => text "flate: internal error: unexpected length code"

/-- The message of a fault. -/
def Fault.message : Fault → Bytes
  | .emptyBarcode => text "invalid barcode: empty sequence"
  | .badBase bc b pos =>
    text "invalid barcode: " ++ quoted bc ++ text " has " ++ byteLiteral b ++ text " at position " ++
      decimal pos
  | .negativeBound m => text "invalid barcode: negative mismatch bound " ++ decimal m
  | .ambiguous m conflicts => ambiguityMessage m conflicts
  | .options o => text "invalid synthesis options: " ++ o.words
  | .sheet s => text "invalid sample sheet: " ++ s.words
  | .config c => text "invalid configuration: " ++ c.words
  | .canceled => text "context canceled"
  | .file op path errno => op.word ++ text " " ++ path ++ text ": " ++ errno.words
  | .tooLong => text "bufio.Scanner: token too long"
  | .gzip g => g.message
  | .directoryInput => text "xopen: input is a directory"
  | .recordStart line => text "line " ++ decimal line ++ text ": record does not start with @"
  | .truncatedRecord line => text "truncated record after line " ++ decimal line
  | .recordCount path held want =>
    path ++ text " holds " ++ decimal held ++ text " records, want " ++ decimal want
  | .usage msg => msg
  | .indexOutOfRange i n =>
    text "runtime error: index out of range [" ++ decimal i ++ text "] with length " ++ decimal n
  | .unknownUser name => text "user: unknown user " ++ name
  | .commandNotFound name =>
    text "exec: " ++ quoted name ++ text ": executable file not found in $PATH"
  | .noCommand => text "exec: no command"
  | .within context inner => context ++ text ": " ++ inner.message

/-- The kinds of faults callers tell apart. -/
inductive FaultKind where
  | ambiguousBarcodeSet
  | invalidBarcode
  | invalidOptions
  | invalidSheet
  | invalidConfig
  | canceled
  | noSpace
  | pathError
  | usage
  | crash
  | other
  deriving DecidableEq, Repr

/-- The kind of a fault: that of the innermost cause. -/
def Fault.kind : Fault → FaultKind
  | .emptyBarcode | .badBase .. | .negativeBound _ => .invalidBarcode
  | .ambiguous .. => .ambiguousBarcodeSet
  | .options _ => .invalidOptions
  | .sheet _ => .invalidSheet
  | .config _ => .invalidConfig
  | .canceled => .canceled
  | .file _ _ .noSpace => .noSpace
  | .file .. => .pathError
  | .usage _ => .usage
  | .indexOutOfRange .. => .crash
  | .within _ inner => inner.kind
  | _ => .other

/-- The barcode bound and conflicts of an ambiguous barcode set, wherever it is wrapped. -/
def Fault.ambiguity? : Fault → Option (Int × List Conflict)
  | .ambiguous m conflicts => some (m, conflicts)
  | .within _ inner => inner.ambiguity?
  | _ => none

/-- The exit status a command reports for a fault: 3 for an ambiguous barcode set, 2 for
input that is refused (barcodes, options, sheets, configurations, command lines), 1 for
anything else. -/
def Fault.exitCode (f : Fault) : Nat :=
  match f.kind with
  | .ambiguousBarcodeSet => 3
  | .invalidBarcode | .invalidOptions | .invalidSheet | .invalidConfig | .usage => 2
  | _ => 1

end FastqFixtures
