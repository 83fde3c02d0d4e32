import FastqFixtures.Fastq.Record
import FastqFixtures.Fastq.Name
import FastqFixtures.Barcode.Expand
import FastqFixtures.Random.Source

/-!
# Synthesis of read pairs

One sample's reads: a random insert read on both mates, R2 carrying after the insert one
variant of the i7 barcode, the UMI and one variant of the i5 barcode. The variants of a
barcode are its mismatch set at the allowed number of mismatches; an empty i5 contributes an
empty suffix.

Every random choice comes from a `Source`, in a fixed order per read: the UMI bases, the
insert bases, the R1 qualities, the i7 variant, the i5 variant (drawn even when there is only
one), then the R2 qualities. The source's state after the run is returned, so runs can share
one source.

* `Options`, `Options.check` — what to generate, and the refusals of bad options.
* `readPair` — the two records of one read.
* `synthesize` — both gzip files of a sample, with the statistics of the run.
-/

namespace FastqFixtures.Fastq

open FastqFixtures.Random FastqFixtures.Barcode

set_option autoImplicit false

/-- One sample's worth of reads. -/
structure Options where
  /-- The prefix of the two output files. -/
  output : Bytes
  reads : Int
  readLength : Int
  i7 : Bytes
  i5 : Bytes
  umiLength : Int
  mismatches : Int
  deriving Repr

/-- The longest UMI. -/
def maxUmiLength : Int := 12

/-- The most mismatches allowed in barcode variants. -/
def maxMismatches : Int := 2

/-- What a synthesis wrote. -/
structure Stats where
  reads : Int
  r1 : Bytes
  r2 : Bytes
  i7Variants : Nat
  i5Variants : Nat
  deriving Repr

/-- The first refused option, in the order output, reads, read length, i7, UMI length,
mismatches. -/
def Options.check (o : Options) : Except Fault Unit :=
  if o.output.isEmpty then .error (.options .emptyOutput)
  else if o.reads < 1 then .error (.options (.readCount o.reads))
  else if o.readLength < 1 then .error (.options (.readLength o.readLength))
  else if o.i7.isEmpty then .error (.options .emptyI7)
  else if o.umiLength < 0 || o.umiLength > maxUmiLength then .error (.options (.umiLength o.umiLength))
  else if o.mismatches < 0 || o.mismatches > maxMismatches then
    .error (.options (.mismatches o.mismatches))
  else .ok ()

/-- The variants of a barcode: its sorted mismatch set, or one empty suffix for no barcode;
`none` when the expansion never returns. -/
def variants (bc : Bytes) (m : Int) : Option (Except Fault (List Bytes)) :=
  if bc.isEmpty then some (.ok [[]]) else (expand [bc] m).map (·.map (·.members))

/-- The bases of inserts and UMIs. -/
def dnaBases : Bytes := text "ACGT"

/-- The quality symbols: Phred+33 for qualities 0 to 40. -/
def qualities : Bytes := (List.range 41).map fun q => (33 + q).toUInt8

variable {σ : Type}

/-- The records of read `i` and the source state after its draws. -/
def readPair (src : Source σ) (o : Options) (i7s i5s : List Bytes) (i : Nat) (s : σ) :
    (Record × Record) × σ :=
  let (umi, s1) := src.symbols s dnaBases o.umiLength.toNat
  let (insert, s2) := src.symbols s1 dnaBases o.readLength.toNat
  let (q1, s3) := src.symbols s2 qualities insert.length
  let (i7, s4) := src.pick s3 i7s
  let (i5, s5) := src.pick s4 i5s
  let mate := insert ++ i7 ++ umi ++ i5
  let (q2, s6) := src.symbols s5 qualities mate.length
  ((⟨readName i 1, insert, q1⟩, ⟨readName i 2, mate, q2⟩), s6)

/-- Writes reads `i` to `i + left - 1` to the two writers. -/
def writePairs (src : Source σ) (o : Options) (i7s i5s : List Bytes) :
    Nat → Nat → RecordWriter → RecordWriter → σ → RecordWriter × RecordWriter × σ
  | 0, _, w1, w2, s => (w1, w2, s)
  | left + 1, i, w1, w2, s =>
    let ((r1, r2), s) := readPair src o i7s i5s i s
    writePairs src o i7s i5s left (i + 1) (w1.write r1) (w2.write r2) s

/-- The result of a synthesis, the source state after it and the files after it. -/
structure Outcome (σ : Type) where
  result : Except Fault Stats
  state : σ
  workspace : Workspace

/-- Writes `o.reads` read pairs to the two files of `o.output`, replacing them. Both writers
are closed whatever happens, R2 first; the first fault is the result. -/
def synthesize (src : Source σ) (s : σ) (o : Options) (w : Workspace) : Outcome σ :=
  let fail (f : Fault) (w : Workspace) : Outcome σ := ⟨.error f, s, w⟩
  match o.check with
  | .error f => fail f w
  | .ok () =>
    -- the check keeps the bound within `0..maxMismatches`, where every expansion returns
    match variants o.i7 o.mismatches with
    | none => fail (.options (.mismatches o.mismatches)) w
    | some (.error f) => fail (.within (text "i7") f) w
    | some (.ok i7s) =>
      match variants o.i5 o.mismatches with
      | none => fail (.options (.mismatches o.mismatches)) w
      | some (.error f) => fail (.within (text "i5") f) w
      | some (.ok i5s) =>
        let (p1, p2) := pairPaths o.output
        match RecordWriter.create w p1 with
        | .error f => fail f w
        | .ok (w1, w) =>
          match RecordWriter.create w p2 with
          | .error f => fail f (w1.close w).2.2
          | .ok (w2, w) =>
            let (w1, w2, s) := writePairs src o i7s i5s o.reads.toNat 1 w1 w2 s
            let (e2, _, w) := w2.close w
            let (e1, _, w) := w1.close w
            let closing := (e2.map (.within (text "closing " ++ p2))).orElse fun _ =>
              e1.map (.within (text "closing " ++ p1))
            match closing with
            | some f => ⟨.error f, s, w⟩
            | none => ⟨.ok ⟨o.reads, p1, p2, i7s.length, i5s.length⟩, s, w⟩

end FastqFixtures.Fastq
