import FastqFixtures.Cli.Complete
import FastqFixtures.Cli.LogText
import FastqFixtures.Run.Pooled

/-!
# The commands

Two commands: `mock_fastq` writes one pair of FASTQ files, `mock_pool` generates the files of
every sample of a sheet and pools them. Both read their flags the same way: a malformed flag,
a positional argument or a missing required flag prints the usage on standard output and the
message on standard error, with exit status 2; `--help` prints the help text. Once the command
runs, a failure prints only `Error: ` and the message, and the exit status tells the kind of
failure: 3 for an ambiguous barcode set, 2 for refused input, 1 for anything else.

Log entries go to standard error, debug entries only with `--verbose`.

* `Exit`, `CliEnv` — what a command leaves behind, and what it takes from its surroundings.
* `Command`, `Command.request`, `Command.execute`.
* `mockFastq`, `mockPool`.
-/

namespace FastqFixtures.Cli

open FastqFixtures.Text FastqFixtures.Run FastqFixtures.Random FastqFixtures.Fastq

set_option autoImplicit false

/-- What a command leaves behind besides its files. -/
structure Exit where
  code : Nat
  stdout : Bytes
  stderr : Bytes
  deriving DecidableEq, Repr

/-- What a command takes from its surroundings: the time stamp of its log lines, the id of a
pooled run, and the seed the clock gives. -/
structure CliEnv where
  time : Bytes
  runId : Bytes
  clockSeed : Int

/-- A command: its name, its short description, its flags (besides `--help`) and the flags it
requires. -/
structure Command where
  name : Bytes
  short : Bytes
  flags : List FlagSpec
  required : List Bytes

/-- The byte of an ASCII letter. -/
def letter (c : Char) : UInt8 := c.toNat.toUInt8

/-- All flags of a command, `--help` included. -/
def Command.specs (c : Command) : List FlagSpec :=
  c.flags ++ [⟨text "help", some (letter 'h'), .bool, text "false", text "help for " ++ c.name⟩]

/-- What a command line asks for. -/
inductive Request where
  | help
  /-- The command line is refused with a message. -/
  | refused (message : Bytes)
  | run (p : Parsed)

/-- Reads a command line: flags first, then `--help`, then positional arguments, then the
required flags (all missing ones, sorted by name, in one message). -/
def Command.request (c : Command) (args : List Bytes) : Request :=
  match parseFlags c.specs args with
  | .error msg => .refused msg
  | .ok p =>
    if p.bool (text "help") false then .help
    else
      match p.args with
      | a :: _ => .refused (text "unknown command " ++ quoted a ++ text " for " ++ quoted c.name)
      | [] =>
        let missing := (Bytes.sort c.required).filter fun n => !p.changed n
        if missing.isEmpty then .run p
        else .refused (text "required flag(s) \"" ++ Bytes.join (text "\", \"") missing ++
          text "\" not set")

/-- What running a command did: its result, what it printed, what it logged, at which
verbosity, and the files after it. -/
structure Effect where
  result : Except Fault Unit
  stdout : Bytes
  logs : List LogEntry
  verbose : Bool
  workspace : Workspace

/-- Runs a command line: `body` runs the command once the flags are accepted, `none` when it
never returns. A request for shell completions is answered instead. -/
def Command.execute (c : Command) (env : CliEnv) (args : List Bytes) (w : Workspace)
    (body : Parsed → Workspace → Option Effect) : Option (Exit × Workspace) :=
  match completionRequest? c.flags args with
  | some ([], _) =>
    some (⟨2, completeUsage c.name ++ [10],
      text "Error: requires at least 1 arg(s), only received 0\n"⟩, w)
  | some (request, noDescriptions) =>
    let (out, err) := completionOutput noDescriptions (complete c.name c.specs c.required request)
    some (⟨0, out, err⟩, w)
  | none =>
  match c.request args with
  | .help => some (⟨0, helpText c.name c.short c.specs, []⟩, w)
  | .refused msg =>
    some (⟨2, usageText c.name c.specs ++ [10], text "Error: " ++ msg ++ [10]⟩, w)
  | .run p =>
    (body p w).map fun e =>
      let log := renderLog env.time e.verbose e.logs
      match e.result with
      | .ok () => (⟨0, e.stdout, log⟩, e.workspace)
      | .error f =>
        (⟨f.exitCode, e.stdout, log ++ text "Error: " ++ f.message ++ [10]⟩, e.workspace)

/-! ## mock_fastq -/

/-- The command that writes one pair of FASTQ files. -/
def fastqCommand : Command where
  name := text "mock_fastq"
  short := text "Generate a FASTQ file with random sequences."
  flags := [
    ⟨text "output-file", some (letter 'o'), .string, [], text "Name of the output FASTQ file"⟩,
    ⟨text "num-sequences", some (letter 'n'), .int, text "1000",
      text "Number of sequences to generate"⟩,
    ⟨text "sequence-length", some (letter 'l'), .int, text "100",
      text "Length of each sequence"⟩,
    ⟨text "i7", none, .string, [], text "I7 sequence (6 to 12 characters)"⟩,
    ⟨text "i5", none, .string, [], text "I5 sequence (6 to 12 characters)"⟩,
    ⟨text "umi-len", none, .int, text "0", text "UMI length (0 to 12)"⟩,
    ⟨text "allowed-mismatches", none, .int, text "0", text "Allowed mismatches (0, 1 or 2)"⟩,
    ⟨text "seed", none, .int64, text "0", text "Random seed (0 seeds from the clock)"⟩,
    ⟨text "verbose", some (letter 'v'), .bool, text "false", text "Log debug detail"⟩]
  required := [text "output-file", text "i7"]

/-- The shortest and longest i7 barcode the command accepts. -/
def minIndexLength : Nat := 6

/-- The longest i7 barcode the command accepts. -/
def maxIndexLength : Nat := 12

/-- Runs `mock_fastq` once its flags are accepted. -/
def fastqBody (env : CliEnv) (p : Parsed) (w : Workspace) : Effect :=
  let verbose := p.bool (text "verbose") false
  let fail (f : Fault) : Effect := ⟨.error f, [], [], verbose, w⟩
  let opts : Options := ⟨p.string (text "output-file") [], p.int (text "num-sequences") 1000,
    p.int (text "sequence-length") 100, p.string (text "i7") [], p.string (text "i5") [],
    p.int (text "umi-len") 0, p.int (text "allowed-mismatches") 0⟩
  if opts.umiLength < 0 || opts.umiLength > maxUmiLength then
    fail (.usage (text "--umi-len must be between 0 and 12"))
  else if opts.mismatches < 0 || opts.mismatches > maxMismatches then
    fail (.usage (text "--allowed-mismatches must be 0, 1 or 2"))
  else if opts.i7.length < minIndexLength || opts.i7.length > maxIndexLength then
    fail (.usage (text "i7 sequence must be between 6 and 12 characters in length."))
  else
    let seed := p.int (text "seed") 0
    let seed := if seed == 0 then env.clockSeed else seed
    let out := synthesize Additive.source (Additive.seeded seed) opts w
    match out.result with
    | .error f => ⟨.error f, [], [], verbose, out.workspace⟩
    | .ok st =>
      let done : LogEntry := ⟨.debug, text "done",
        [(text "reads", .int st.reads), (text "i7", .int st.i7Variants),
          (text "i5", .int st.i5Variants)]⟩
      ⟨.ok (), text "FASTQ file generated: " ++ opts.output ++ [10], [done], verbose,
        out.workspace⟩

/-- Runs `mock_fastq` with the arguments `args`. -/
def mockFastq (env : CliEnv) (args : List Bytes) (w : Workspace) : Option (Exit × Workspace) :=
  fastqCommand.execute env args w fun p w => some (fastqBody env p w)

/-! ## mock_pool -/

/-- The command that generates and pools the files of a sample sheet. -/
def poolCommand : Command where
  name := text "mock_pool"
  short := text "Generate per-sample FASTQ fixtures from a sample sheet and pool them."
  flags := [
    ⟨text "configfile", some (letter 'c'), .string, [],
      text "read configuration from JSON " ++ [96] ++ text "file" ++ [96]⟩,
    ⟨text "sample-sheet", some (letter 's'), .string, [],
      text "sample sheet " ++ [96] ++ text "file" ++ [96]⟩,
    ⟨text "output", some (letter 'o'), .string, [],
      text "prefix of the pooled and per-sample files"⟩,
    ⟨text "read-length", some (letter 'l'), .int, text "100", text "length of each insert"⟩,
    ⟨text "umi-len", none, .int, text "8", text "UMI length (0 to 12)"⟩,
    ⟨text "allowed-mismatches", none, .int, text "1",
      text "allowed barcode mismatches (0, 1 or 2)"⟩,
    ⟨text "reads", some (letter 'n'), .int, text "0",
      text "reads per sample, replacing the sheet counts (0 keeps them)"⟩,
    ⟨text "seed", none, .int64, text "0", text "random seed (0 seeds from the clock)"⟩,
    ⟨text "keep-intermediates", none, .bool, text "false", text "keep the per-sample files"⟩,
    ⟨text "check-collisions", none, .bool, text "false",
      text "fail if any two dual indices share a mismatch variant"⟩,
    ⟨text "progress", none, .bool, text "false", text "show a progress bar"⟩,
    ⟨text "cpuprofile", none, .string, [],
      text "write cpu profile to " ++ [96] ++ text "file" ++ [96]⟩,
    ⟨text "memprofile", none, .string, [],
      text "write memory profile to " ++ [96] ++ text "file" ++ [96]⟩,
    ⟨text "verbose", some (letter 'v'), .bool, text "false", text "log debug detail"⟩]
  required := []

/-- The configuration with every flag that was set laid over it. -/
def overlayFlags (p : Parsed) (c : Config) : Config :=
  let str (n : String) (d : Bytes) := if p.changed (text n) then p.string (text n) d else d
  let int (n : String) (d : Int) := if p.changed (text n) then p.int (text n) d else d
  let flag (n : String) (d : Bool) := if p.changed (text n) then p.bool (text n) d else d
  { sampleSheet := str "sample-sheet" c.sampleSheet
    output := str "output" c.output
    readLength := int "read-length" c.readLength
    umiLength := int "umi-len" c.umiLength
    mismatches := int "allowed-mismatches" c.mismatches
    reads := int "reads" c.reads
    seed := int "seed" c.seed
    keepIntermediates := flag "keep-intermediates" c.keepIntermediates
    checkCollisions := flag "check-collisions" c.checkCollisions
    progress := flag "progress" c.progress }

/-- Creates a profile file, if one is asked for. -/
def createProfile (w : Workspace) (path : Bytes) (what : String) : Except Fault Workspace :=
  if path.isEmpty then .ok w
  else (w.create path).mapError (.within (text ("could not create " ++ what ++ " profile")))

/-- Runs `mock_pool` once its flags are accepted; `none` when it never returns. -/
def poolBody (env : CliEnv) (p : Parsed) (w : Workspace) : Option Effect :=
  let verbose := p.bool (text "verbose") false
  let configFile := p.string (text "configfile") []
  match createProfile w (p.string (text "cpuprofile") []) "CPU" with
  | .error f => some ⟨.error f, [], [], verbose, w⟩
  | .ok w =>
    let reading : List LogEntry :=
      if configFile.isEmpty then [] else [⟨.info, text "Reading configuration", []⟩]
    let loaded : Option (Except Fault Config) :=
      if configFile.isEmpty then some (.ok Config.default)
      else (loadConfig w configFile Config.default).map
        (·.mapError (.within (text "could not read config file")))
    match loaded with
    | none => none
    | some (.error f) => some ⟨.error f, [], reading, verbose, w⟩
    | some (.ok cfg) =>
      let cfg := overlayFlags p cfg
      let logs := reading ++ [⟨.info, text "Starting generation", []⟩]
      let out := runPool cfg ⟨env.runId, env.clockSeed, false⟩ w
      let logs := logs ++ out.logs
      match out.result with
      | .error f => some ⟨.error f, [], logs, verbose, out.workspace⟩
      | .ok sm =>
        let done : LogEntry := ⟨.info, text "done",
          [(text "run", .str sm.runId), (text "samples", .int sm.samples),
            (text "reads", .int sm.reads)]⟩
        let printed := sm.r1 ++ [10] ++ sm.r2 ++ [10]
        let logs := logs ++ [done]
        match createProfile out.workspace (p.string (text "memprofile") []) "memory" with
        | .error f => some ⟨.error f, printed, logs, verbose, out.workspace⟩
        | .ok w => some ⟨.ok (), printed, logs, verbose, w⟩

/-- Runs `mock_pool` with the arguments `args`; `none` when it never returns. -/
def mockPool (env : CliEnv) (args : List Bytes) (w : Workspace) : Option (Exit × Workspace) :=
  poolCommand.execute env args w (poolBody env)

end FastqFixtures.Cli
