import Std.Time.Zoned
import FastqFixtures.Cli.Paths

/-!
# The command line

`fastq-fixtures mock_fastq FLAGS` and `fastq-fixtures mock_pool FLAGS` run the two commands in
the current directory. The paths a command consults are brought into a `Workspace` first,
the command runs on it, and the files it created, changed or removed are written back. The
time stamp of log lines, the run id and the clock seed come from the system.
-/

namespace FastqFixtures.Cli

set_option autoImplicit false

/-- The text of a path given by its components. -/
def pathText (cs : List Bytes) : String :=
  String.fromUTF8! (Bytes.join [47] cs).toByteArray

/-- Brings the directories on the way to `rest` (below `done`) and the entry at its end into
`w`: a readable file with its bytes, a directory when reading it is refused as one, and
nothing when it is absent. -/
def loadComponents (w : Workspace) (done : List Bytes) : List Bytes → IO Workspace
  | [] => pure w
  | c :: rest => do
    let here := done ++ [c]
    match w.lookup here with
    | some .dir => loadComponents w here rest
    | some _ => pure w
    | none =>
      try
        let bs ← IO.FS.readBinFile (pathText here)
        pure (w.put here (.file bs.toList))
      catch e =>
        match e with
        | .inappropriateType .. => loadComponents (w.put here .dir) here rest
        | _ => pure w

/-- Loads the consulted paths round after round, until a round brings no new path. -/
def loadConsulted (consulted : Workspace → List Bytes) : Nat → List Bytes → Workspace →
    IO Workspace
  | 0, _, w => pure w
  | fuel + 1, seen, w => do
    let fresh := (consulted w).filter fun p => !seen.contains p
    if fresh.isEmpty then pure w
    else
      let w ← fresh.foldlM (fun w p => loadComponents w [] (components p)) w
      loadConsulted consulted fuel (seen ++ fresh) w

/-- Writes back what changed between `before` and `after`: new directories and new or changed
files are written, files that are gone are removed. -/
def writeBack (before after : Workspace) : IO Unit := do
  for (cs, node) in after.entries do
    if before.lookup cs != some node then
      match node with
      | .file c => IO.FS.writeBinFile (pathText cs) c.toByteArray
      | .dir => IO.FS.createDirAll (pathText cs)
      | .fullDevice => pure ()
  for (cs, node) in before.entries do
    if (after.lookup cs).isNone then
      match node with
      | .file _ => IO.FS.removeFile (pathText cs)
      | _ => pure ()

/-- Two decimal digits. -/
def twoDigits (n : Nat) : String := if n < 10 then "0" ++ toString n else toString n

/-- The local time as `YYYY/MM/DD hh:mm:ss`. -/
def timeStamp : IO Bytes := do
  let t ← Std.Time.PlainDateTime.now
  pure (text (toString t.date.year.toInt ++ "/" ++ twoDigits t.date.month.val.toNat ++ "/" ++
    twoDigits t.date.day.val.toNat ++ " " ++ twoDigits t.time.hour.val.toNat ++ ":" ++
    twoDigits t.time.minute.val.toNat ++ ":" ++ twoDigits t.time.second.val.toNat))

/-- A random run id in the form of a version-4 UUID. -/
def randomRunId : IO Bytes := do
  let raw := (← IO.getRandomBytes 16).toList
  let marked := raw.set 6 ((raw.getD 6 0 &&& 0x0f) ||| 0x40) |>.set 8 ((raw.getD 8 0 &&& 0x3f) ||| 0x80)
  let h := fun (a b : Nat) => Bytes.hex ((marked.drop a).take (b - a))
  pure (h 0 4 ++ [45] ++ h 4 6 ++ [45] ++ h 6 8 ++ [45] ++ h 8 10 ++ [45] ++ h 10 16)

/-- Waits forever, as a run that never returns does. -/
partial def hang : IO UInt32 := do
  IO.sleep 1000
  hang

/-- Runs a command in the current directory and reports its exit status. -/
def launch (run : CliEnv → List Bytes → Workspace → Option (Exit × Workspace))
    (consulted : List Bytes → Workspace → List Bytes) (args : List Bytes) : IO UInt32 := do
  let w ← loadConsulted (consulted args) 4 [] Workspace.empty
  let env : CliEnv := ⟨← timeStamp, ← randomRunId,
    (← Std.Time.Timestamp.now).toNanosecondsSinceUnixEpoch.toInt⟩
  let some (e, after) := run env args w | hang
  writeBack w after
  let out ← IO.getStdout
  out.write e.stdout.toByteArray
  out.flush
  let err ← IO.getStderr
  err.write e.stderr.toByteArray
  err.flush
  pure e.code.toUInt32

end FastqFixtures.Cli

open FastqFixtures FastqFixtures.Cli in
/-- Runs the command named by the first argument with the remaining arguments. -/
def main (args : List String) : IO UInt32 := do
  match args.map text with
  | cmd :: rest =>
    if cmd == text "mock_fastq" then launch mockFastq (fun a _ => fastqPaths a) rest
    else if cmd == text "mock_pool" then launch mockPool poolPaths rest
    else
      IO.eprintln "usage: fastq-fixtures (mock_fastq | mock_pool) [flags]"
      pure 2
  | [] =>
    IO.eprintln "usage: fastq-fixtures (mock_fastq | mock_pool) [flags]"
    pure 2
