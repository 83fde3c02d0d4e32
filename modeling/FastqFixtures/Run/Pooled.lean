import FastqFixtures.Run.Config
import FastqFixtures.Run.Log
import FastqFixtures.SampleSheet
import FastqFixtures.Pool
import FastqFixtures.Random.Additive

/-!
# Pooled runs

A run generates one pair of files per sample of the sheet, in sheet order and from one shared
source of draws, concatenates them into `<output>_R1.fastq.gz` and `<output>_R2.fastq.gz`,
checks that the pooled files hold one record per generated read, and removes the per-sample
files unless asked to keep them.

Before any file is written the configuration is checked, the sheet is read (it must list a
sample), and with collision checking the dual indices (i7 then i5) of all samples but the
all-`N` catch-all are expanded together, so that no read of one sample can fall into another
sample's mismatch set. A sample whose read count is zero is skipped; a run in which every
sample is skipped is refused. Cancellation is looked at before each sample.

* `Summary`, `RunEnv`, `RunOutcome`.
* `checkCollisions` — the joint expansion of the dual indices.
* `generateSamples` — the per-sample files, over any source.
* `runPool` — the whole run.
-/

namespace FastqFixtures.Run

open FastqFixtures.Random FastqFixtures.Fastq FastqFixtures.Sheet

set_option autoImplicit false

/-- What a finished run did. -/
structure Summary where
  runId : Bytes
  samples : Nat
  /-- The samples with no reads to generate. -/
  skipped : List Bytes
  reads : Int
  r1 : Bytes
  r2 : Bytes
  deriving Repr

/-- What a run takes from its surroundings: its id, the seed the clock gives, and whether it
is cancelled. -/
structure RunEnv where
  runId : Bytes
  clockSeed : Int
  cancelled : Bool

/-- The result of a run, the files after it and its log. -/
structure RunOutcome where
  result : Except Fault Summary
  workspace : Workspace
  logs : List LogEntry

/-- Expands every dual index but those of rows whose two barcodes are both undetermined;
`none` when the expansion never returns. -/
def checkCollisions (entries : List Entry) (m : Int) : Option (Except Fault Unit) :=
  let duals := entries.filterMap fun e =>
    if Barcode.undetermined e.i7 && Barcode.undetermined e.i5 then none else some (e.i7 ++ e.i5)
  (Barcode.expand duals m).map (·.map fun _ => ())

/-- The read count of a sample: the configuration's when positive, else the sheet's. -/
def Config.readsFor (cfg : Config) (e : Entry) : Int := if cfg.reads > 0 then cfg.reads else e.reads

/-- What to synthesize for a sample: its reads, its barcodes, and files named by the output
prefix and the sample id. -/
def sampleOptions (cfg : Config) (e : Entry) : Options :=
  ⟨cfg.output ++ text "-" ++ e.sampleId, cfg.readsFor e, cfg.readLength, e.i7, e.i5,
    cfg.umiLength, cfg.mismatches⟩

/-- Sums read counts as 64-bit integers do, wrapping around. -/
def addReads (a b : Int) : Int := (Int64.ofInt (a + b)).toInt

/-- What generating the samples produced: the per-sample files, the counts, the log so far
(latest first). -/
structure Generated where
  r1s : List Bytes
  r2s : List Bytes
  samples : Nat
  skipped : List Bytes
  reads : Int
  logs : List LogEntry

variable {σ : Type}

/-- Generates the files of each sample in turn from the shared source; the first fault stops,
with what was generated and logged before it. -/
def generateSamples (src : Source σ) (cfg : Config) (env : RunEnv) :
    List Entry → σ → Generated → Workspace → Generated × Option Fault × Workspace
  | [], _, g, w => (g, none, w)
  | e :: rest, s, g, w =>
    if env.cancelled then (g, some .canceled, w)
    else
      let run := (text "run", LogValue.str env.runId)
      let sample := (text "sample", LogValue.str e.sampleId)
      let reads := cfg.readsFor e
      if reads == 0 then
        let entry : LogEntry := ⟨.warning, text "no reads requested, skipping", [run, sample]⟩
        generateSamples src cfg env rest s
          { g with skipped := g.skipped ++ [e.sampleId], logs := entry :: g.logs } w
      else
        let start : LogEntry :=
          ⟨.info, text "generating fastq files for sample " ++ e.sampleId, [run, sample]⟩
        let out := synthesize src s (sampleOptions cfg e) w
        match out.result with
        | .error f =>
          ({ g with logs := start :: g.logs }, some (.within (text "sample " ++ e.sampleId) f),
            out.workspace)
        | .ok st =>
          let done : LogEntry := ⟨.debug, text "sample done",
            [run, sample, (text "reads", .int st.reads), (text "i7", .int st.i7Variants),
              (text "i5", .int st.i5Variants)]⟩
          generateSamples src cfg env rest out.state
            { g with r1s := g.r1s ++ [st.r1], r2s := g.r2s ++ [st.r2], samples := g.samples + 1,
                     reads := addReads g.reads reads, logs := done :: start :: g.logs }
            out.workspace

/-- Checks that each pooled file holds `want` records. -/
def checkCounts (w : Workspace) (want : Int) : List Bytes → Except Fault Unit
  | [] => .ok ()
  | p :: rest =>
    match Pool.countRecords w p with
    | .error f => .error f
    | .ok n => if n != want then .error (.recordCount p n want) else checkCounts w want rest

/-- A run of `cfg` over the working directory `w`. -/
def runPool (cfg : Config) (env : RunEnv) (w : Workspace) : RunOutcome :=
  let fail (f : Fault) (w : Workspace) (logs : List LogEntry) : RunOutcome := ⟨.error f, w, logs⟩
  match cfg.check with
  | .error f => fail f w []
  | .ok () =>
    match readSheet w cfg.sampleSheet with
    | .error f => fail f w []
    | .ok entries =>
      if entries.isEmpty then fail (.sheet (.noSamples cfg.sampleSheet)) w []
      else
        let collisions := if cfg.checkCollisions then checkCollisions entries cfg.mismatches
          else some (.ok ())
        -- the check keeps the bound within `0..maxMismatches`, where every expansion returns
        match collisions with
        | none => fail (.config (.mismatches cfg.mismatches)) w []
        | some (.error f) => fail f w []
        | some (.ok ()) =>
          let seed := if cfg.seed == 0 then env.clockSeed else cfg.seed
          let run := (text "run", LogValue.str env.runId)
          match generateSamples Additive.source cfg env entries (Additive.seeded seed)
              ⟨[], [], 0, [], 0, []⟩ w with
          | (g, some f, w) => fail f w g.logs.reverse
          | (g, none, w) =>
            let logs := g.logs.reverse
            if g.samples == 0 then fail (.sheet .nothingToGenerate) w logs
            else
              let logs := logs ++ [⟨.info, text "Merging all files ...", [run]⟩]
              let (r1, r2) := pairPaths cfg.output
              match Pool.concat w r2 g.r2s with
              | (.error f, w) => fail f w logs
              | (.ok (), w) =>
                match Pool.concat w r1 g.r1s with
                | (.error f, w) => fail f w logs
                | (.ok (), w) =>
                  match checkCounts w g.reads [r1, r2] with
                  | .error f => fail f w logs
                  | .ok () =>
                    let summary : Summary := ⟨env.runId, g.samples, g.skipped, g.reads, r1, r2⟩
                    if cfg.keepIntermediates then ⟨.ok summary, w, logs⟩
                    else
                      let logs := logs ++ [⟨.info, text "deleting sample files..", [run]⟩]
                      match Pool.removeAll w (g.r1s ++ g.r2s) with
                      | (some f, w) => fail f w logs
                      | (none, w) => ⟨.ok summary, w, logs⟩

end FastqFixtures.Run
