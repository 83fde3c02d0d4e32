import FastqFixtures.Cli.Commands

/-!
# The paths a command line consults

A command looks only at paths named by its flags, by its configuration file and by its sample
sheet. Knowing them lets a caller bring just those paths of a real directory into a
`Workspace` before running the command: it asks again after each load, since the configuration
file and the sample sheet name further paths, until no new path comes up.

* `consultedPaths` — the paths a command line may read or write, given what is loaded so far.
-/

namespace FastqFixtures.Cli

open FastqFixtures.Run FastqFixtures.Fastq

set_option autoImplicit false

/-- The two files of an output prefix. -/
def pairList (output : Bytes) : List Bytes := [(pairPaths output).1, (pairPaths output).2]

/-- The paths `mock_fastq` consults: the two output files. -/
def fastqPaths (args : List Bytes) : List Bytes :=
  match fastqCommand.request args with
  | .run p => pairList (p.string (text "output-file") [])
  | _ => []

/-- The paths `mock_pool` consults, given the working directory `w`: the profiles, the
configuration file, the sample sheet, every sample's files and the pooled files. -/
def poolPaths (args : List Bytes) (w : Workspace) : List Bytes :=
  match poolCommand.request args with
  | .run p =>
    let named := [p.string (text "cpuprofile") [], p.string (text "memprofile") [],
      p.string (text "configfile") []]
    let configFile := p.string (text "configfile") []
    let base := if configFile.isEmpty then Config.default
      else match loadConfig w configFile Config.default with
        | some (.ok c) => c
        | _ => Config.default
    let cfg := overlayFlags p base
    let samples := match Sheet.readSheet w cfg.sampleSheet with
      | .ok entries => entries.flatMap fun e => pairList (cfg.output ++ text "-" ++ e.sampleId)
      | .error _ => []
    (named ++ [cfg.sampleSheet] ++ samples ++ pairList cfg.output).filter (!·.isEmpty)
  | _ => []

end FastqFixtures.Cli
