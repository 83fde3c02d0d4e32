import FastqFixtures.Workspace
import FastqFixtures.Json.Reader
import FastqFixtures.Text.Utf8
import FastqFixtures.Fastq.Synthesis

/-!
# Run configuration

The settings of a pooled run, and how a JSON configuration file is laid over them. A file is
first checked to be JSON as a whole. Then each member of the top-level object whose key names
a field sets it: a key matches a field name exactly or up to case (ASCII letters, and the two
non-ASCII letters that fold onto ASCII ones, long s and the Kelvin sign). Later members win,
`null` leaves a field as it is, and unknown keys are ignored. A value of the wrong kind, or a
number that is not a 64-bit integer, is reported with the field's name; the first such value
is reported, after all members have been looked at.

* `Config`, `Config.default`.
* `Field` — the fields of the file, with their keys and types.
* `overlay`, `loadConfig` — a configuration file laid over a configuration.
* `Config.check` — the first setting out of range.
-/

namespace FastqFixtures.Run

open FastqFixtures.Json FastqFixtures.Text

set_option autoImplicit false

/-- The settings of a pooled run. -/
structure Config where
  sampleSheet : Bytes
  /-- The prefix of the pooled files and of the per-sample files. -/
  output : Bytes
  readLength : Int
  umiLength : Int
  mismatches : Int
  /-- When positive, the read count of every sample, in place of the sheet's. -/
  reads : Int
  /-- Zero asks for a seed from the clock. -/
  seed : Int
  keepIntermediates : Bool
  checkCollisions : Bool
  progress : Bool
  deriving DecidableEq, Repr

/-- The default settings: inserts of 100 bases, UMIs of 8, one mismatch. -/
def Config.default : Config :=
  ⟨[], [], 100, 8, 1, 0, 0, false, false, false⟩

/-- A field of the configuration file. -/
inductive Field where
  | sampleSheet
  | output
  | readLength
  | umiLength
  | mismatches
  | reads
  | seed
  | keepIntermediates
  | checkCollisions
  | progress
  deriving DecidableEq, Repr

/-- The fields, in declaration order. -/
def Field.all : List Field :=
  [.sampleSheet, .output, .readLength, .umiLength, .mismatches, .reads, .seed,
    .keepIntermediates, .checkCollisions, .progress]

/-- The key of a field. -/
def Field.key : Field → Bytes
  | .sampleSheet => text "sample_sheet"
  | .output => text "output"
  | .readLength => text "read_length"
  | .umiLength => text "umi_length"
  | .mismatches => text "mismatches"
  | .reads => text "reads"
  | .seed => text "seed"
  | .keepIntermediates => text "keep_intermediates"
  | .checkCollisions => text "check_collisions"
  | .progress => text "progress"

/-- How a field's value is stored. -/
inductive Slot where
  | string
  | integer
  | flag

/-- The slot of a field. -/
def Field.slot : Field → Slot
  | .sampleSheet | .output => .string
  | .keepIntermediates | .checkCollisions | .progress => .flag
  | _ => .integer

/-- The type of a field, as named in messages. -/
def Field.typeWord : Field → Bytes
  | .sampleSheet | .output => text "string"
  | .seed => text "int64"
  | .keepIntermediates | .checkCollisions | .progress => text "bool"
  | _ => text "int"

/-- The case fold of one character of a key: ASCII letters upper-cased, long s to `S` and
the Kelvin sign to `K`; anything else as it is. -/
def foldGlyph (g : Glyph) : Bytes :=
  match g with
  | .char c =>
    if 'a' ≤ c ∧ c ≤ 'z' then [(c.toNat - 32).toUInt8]
    else if c.toNat == 0x17F then text "S"
    else if c.toNat == 0x212A then text "K"
    else encode c
  | .stray _ => encode '�'

/-- The case fold of a key. -/
def foldKey (key : Bytes) : Bytes := (decode key).flatMap foldGlyph

/-- The field a key names: an exact match first, then a match up to case. -/
def fieldOf? (key : Bytes) : Option Field :=
  match Field.all.find? (·.key == key) with
  | some f => some f
  | none => Field.all.find? fun f => foldKey f.key == foldKey key

/-- A value found for field `f` under `key`, which names the field as the document wrote it. -/
def mismatch (found : Bytes) (key : Bytes) (f : Field) : ConfigFault :=
  .mismatch found (some key) f.typeWord

/-- Sets a string field. -/
def Config.setString (c : Config) (f : Field) (s : Bytes) : Config :=
  match f with
  | .sampleSheet => { c with sampleSheet := s }
  | .output => { c with output := s }
  | _ => c

/-- Sets an integer field. -/
def Config.setInteger (c : Config) (f : Field) (n : Int) : Config :=
  match f with
  | .readLength => { c with readLength := n }
  | .umiLength => { c with umiLength := n }
  | .mismatches => { c with mismatches := n }
  | .reads => { c with reads := n }
  | .seed => { c with seed := n }
  | _ => c

/-- Sets a flag field. -/
def Config.setFlag (c : Config) (f : Field) (b : Bool) : Config :=
  match f with
  | .keepIntermediates => { c with keepIntermediates := b }
  | .checkCollisions => { c with checkCollisions := b }
  | .progress => { c with progress := b }
  | _ => c

/-- Stores a value given under `key` in the field it names; `null` changes nothing. -/
def Config.store (c : Config) (key : Bytes) (f : Field) (v : JsonValue) :
    Except ConfigFault Config :=
  match v, f.slot with
  | .null, _ => .ok c
  | .string s, .string => .ok (c.setString f s)
  | .bool b, .flag => .ok (c.setFlag f b)
  | .number lit, .integer =>
    match readInteger false lit with
    | .ok n => .ok (c.setInteger f n)
    | .error _ => .error (mismatch (text "number " ++ lit) key f)
  | v, _ => .error (mismatch v.kindWord key f)

/-- Lays the members of an object over `c`; the first refused value is kept in `first` while
the later members are still stored. -/
def overlayMembers (first : Option ConfigFault) (c : Config) :
    List (Bytes × JsonValue) → Except ConfigFault Config
  | [] =>
    match first with
    | some f => .error f
    | none => .ok c
  | (key, v) :: rest =>
    match fieldOf? key with
    | none => overlayMembers first c rest
    | some f =>
      match c.store key f v with
      | .ok c => overlayMembers first c rest
      | .error e => overlayMembers (first.orElse fun _ => some e) c rest

/-- Lays a JSON document over `c`. -/
def overlay (c : Config) (doc : Bytes) : Except ConfigFault Config :=
  match readJson doc with
  | .error f => .error (.notJson f)
  | .ok .null => .ok c
  | .ok (.object members) => overlayMembers none c members
  | .ok v => .error (.mismatch v.kindWord none (text "driver.Config"))

/-- Lays the configuration file at `path` over `c`. Faults of opening and reading the file
are reported as they are; reading the endless device never reaches its end, so the load never
returns (`none`). -/
def loadConfig (w : Workspace) (path : Bytes) (c : Config) : Option (Except Fault Config) :=
  match w.openRead path with
  | .error f => some (.error f)
  | .ok .directory => some (.error (.file .read path .isDir))
  | .ok .zeros => none
  | .ok (.contents doc) => some ((overlay c doc).mapError .config)

/-- The first setting out of range, in the order sheet, output, read length, UMI length,
mismatches, read count. -/
def Config.check (c : Config) : Except Fault Unit :=
  if c.sampleSheet.isEmpty then .error (.config .noSheet)
  else if c.output.isEmpty then .error (.config .noOutput)
  else if c.readLength < 1 then .error (.config (.readLength c.readLength))
  else if c.umiLength < 0 || c.umiLength > Fastq.maxUmiLength then
    .error (.config (.umiLength c.umiLength))
  else if c.mismatches < 0 || c.mismatches > Fastq.maxMismatches then
    .error (.config (.mismatches c.mismatches))
  else if c.reads < 0 then .error (.config (.readCount c.reads))
  else .ok ()

end FastqFixtures.Run
