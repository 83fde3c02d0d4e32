import FastqFixtures.Text.Quoted
import FastqFixtures.Text.Decimal

/-!
# Command-line flags

Flags in the GNU style: `--name value`, `--name=value`, `-n value`, `-nvalue`, `-n=value`, and
groups of one-letter flags such as `-vn 5`. A boolean flag takes no separate argument (`true` is
implied; `--name=false` sets it off). Integers are read with an optional sign and base prefix
(`0x`, `0o`, `0b`, a leading `0` for octal) and underscores between digits. An argument `--`
ends the flags; every other argument that is empty, is `-` or does not start with `-` is
positional. The first malformed flag stops the reading with its message.

* `FlagKind`, `FlagSpec`, `FlagValue` — what a flag is and what it is set to.
* `Parsed`, `parseFlags` — the flags set, in order, and the positional arguments.
-/

namespace FastqFixtures.Cli

open FastqFixtures.Text

set_option autoImplicit false

/-- The type of a flag's value. -/
inductive FlagKind where
  | string
  | int
  | int64
  | bool
  deriving DecidableEq, Repr

/-- A flag: its long name, its one-letter name, its type, its default as shown in the usage,
and its usage line (a word in backquotes names the value). -/
structure FlagSpec where
  name : Bytes
  short : Option UInt8
  kind : FlagKind
  default : Bytes
  usage : Bytes
  deriving Repr

/-- A value a flag was set to. -/
inductive FlagValue where
  | string (s : Bytes)
  | int (n : Int)
  | bool (b : Bool)
  deriving DecidableEq, Repr

/-- The flags set, in the order they were set (a flag set twice appears twice), and the
positional arguments. -/
structure Parsed where
  set : List (Bytes × FlagValue)
  args : List Bytes
  deriving Repr

/-- The value a flag was last set to. -/
def Parsed.get? (p : Parsed) (name : Bytes) : Option FlagValue :=
  (p.set.reverse.find? (·.1 == name)).map (·.2)

/-- Whether a flag was set. -/
def Parsed.changed (p : Parsed) (name : Bytes) : Bool := p.set.any (·.1 == name)

/-- The string a flag was set to, or `d`. -/
def Parsed.string (p : Parsed) (name : Bytes) (d : Bytes) : Bytes :=
  match p.get? name with
  | some (.string s) => s
  | _ => d

/-- The integer a flag was set to, or `d`. -/
def Parsed.int (p : Parsed) (name : Bytes) (d : Int) : Int :=
  match p.get? name with
  | some (.int n) => n
  | _ => d

/-- The truth value a flag was set to, or `d`. -/
def Parsed.bool (p : Parsed) (name : Bytes) (d : Bool) : Bool :=
  match p.get? name with
  | some (.bool b) => b
  | _ => d

/-- How a flag is named in messages: `-n, --name` or `--name`. -/
def FlagSpec.display (f : FlagSpec) : Bytes :=
  match f.short with
  | some c => [45, c] ++ text ", --" ++ f.name
  | none => text "--" ++ f.name

/-- The value a flag takes when given without one: `true` for a boolean flag. -/
def FlagSpec.implied? (f : FlagSpec) : Option Bytes :=
  if f.kind == .bool then some (text "true") else none

/-- Reads the text of a value for flag `f`. -/
def FlagSpec.read (f : FlagSpec) (value : Bytes) : Except Bytes FlagValue :=
  let refuse (why : Bytes) : Except Bytes FlagValue :=
    .error (text "invalid argument " ++ quoted value ++ text " for " ++ quoted f.display ++
      text " flag: " ++ why)
  match f.kind with
  | .string => .ok (.string value)
  | .int | .int64 =>
    match readInteger true value with
    | .ok n => .ok (.int n)
    | .error e => refuse (text "strconv.ParseInt: parsing " ++ quoted value ++ text ": " ++ e.words)
  | .bool =>
    match readBoolean value with
    | some b => .ok (.bool b)
    | none => refuse (text "strconv.ParseBool: parsing " ++ quoted value ++ text ": invalid syntax")

/-- Sets flag `f` from the text `value`. -/
def Parsed.assign (p : Parsed) (f : FlagSpec) (value : Bytes) : Except Bytes Parsed :=
  (f.read value).map fun v => { p with set := p.set ++ [(f.name, v)] }

/-- The flag with long name `name`. -/
def findLong (specs : List FlagSpec) (name : Bytes) : Option FlagSpec :=
  specs.find? (·.name == name)

/-- The flag with one-letter name `c`. -/
def findShort (specs : List FlagSpec) (c : UInt8) : Option FlagSpec :=
  specs.find? (·.short == some c)

/-- Reads the group of one-letter flags `shorts` (what follows `-`, as far as not yet read),
with `rest` the arguments after the group. -/
def parseShorts (specs : List FlagSpec) (shorts : Bytes) (rest : List Bytes) (p : Parsed) :
    Except Bytes (List Bytes × Parsed) :=
  match shorts with
  | [] => .ok (rest, p)
  | c :: more =>
    if (text "test.").isPrefixOf shorts then .ok (rest, p)
    else
      match findShort specs c with
      | none =>
        .error (text "unknown shorthand flag: " ++ byteLiteral c ++ text " in -" ++ shorts)
      | some f =>
        match more, f.implied? with
        | 61 :: value@(_ :: _), _ => (p.assign f value).map fun p => (rest, p)
        | _, some value => (p.assign f value).bind fun p => parseShorts specs more rest p
        | _ :: _, none => (p.assign f more).map fun p => (rest, p)
        | [], none =>
          match rest with
          | value :: rest' => (p.assign f value).map fun p => (rest', p)
          | [] =>
            .error (text "flag needs an argument: " ++ byteLiteral c ++ text " in -" ++ shorts)

/-- Reads the long flag `arg` (`--` and a name, maybe `=value`), with `rest` the arguments
after it. -/
def parseLong (specs : List FlagSpec) (arg : Bytes) (rest : List Bytes) (p : Parsed) :
    Except Bytes (List Bytes × Parsed) :=
  let body := arg.drop 2
  match body with
  | [] | 45 :: _ | 61 :: _ => .error (text "bad flag syntax: " ++ arg)
  | _ =>
    let name := body.takeWhile (· != 61)
    let inline := if body.contains 61 then some (body.drop (name.length + 1)) else none
    match findLong specs name with
    | none => .error (text "unknown flag: --" ++ name)
    | some f =>
      match inline, f.implied? with
      | some value, _ => (p.assign f value).map fun p => (rest, p)
      | none, some value => (p.assign f value).map fun p => (rest, p)
      | none, none =>
        match rest with
        | value :: rest' => (p.assign f value).map fun p => (rest', p)
        | [] => .error (text "flag needs an argument: " ++ arg)

/-- Reads the arguments in turn; `fuel` bounds the steps, each of which takes at least one
argument. -/
def parseFrom (specs : List FlagSpec) : Nat → List Bytes → Parsed → Except Bytes Parsed
  | 0, _, p => .ok p
  | _, [], p => .ok p
  | fuel + 1, arg :: rest, p =>
    match arg with
    | 45 :: 45 :: [] => .ok { p with args := p.args ++ rest }
    | 45 :: 45 :: _ =>
      (parseLong specs arg rest p).bind fun (rest, p) => parseFrom specs fuel rest p
    | 45 :: shorts@(_ :: _) =>
      (parseShorts specs shorts rest p).bind fun (rest, p) => parseFrom specs fuel rest p
    | _ => parseFrom specs fuel rest { p with args := p.args ++ [arg] }

/-- The flags and positional arguments of a command line, or the message of its first
malformed flag. -/
def parseFlags (specs : List FlagSpec) (args : List Bytes) : Except Bytes Parsed :=
  parseFrom specs (args.length + 1) args ⟨[], []⟩

end FastqFixtures.Cli
