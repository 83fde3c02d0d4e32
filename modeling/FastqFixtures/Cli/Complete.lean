import FastqFixtures.Cli.Usage
import FastqFixtures.Text.Blank

/-!
# Shell completion requests

A command line whose first command word is `__complete` (or `__completeNoDesc`, which leaves
the descriptions out) asks for the completions of the rest of the line instead of running the
command. Command words are found before any flag is checked: arguments that are not flags,
nor taken to be values of flags, up to `--`. At that point `-h` is not yet a known flag.

The last argument is the word being typed. When it starts with `-` and has no `=`, it is
completed as a flag name: the required flags not yet set whose names fit, or, when there are
none, every flag not yet set whose names fit. Otherwise only required flags not yet set are
offered (the commands take no positional arguments and no flag has its own completions). A
flag that needs a value, typed as the argument before or before `=` in the typed word, is
completed as a value, with nothing to offer.

The answer is one line per completion (the flag, a tab and its usage line), then `:` and the
directive number; standard error names the directive and reports a failure to read the flags.

* `completionRequest?` — the request a command line makes, if any.
* `complete` — the completions of a request.
* `completionOutput`, `completeUsage` — what is printed.
-/

namespace FastqFixtures.Cli

open FastqFixtures.Text

set_option autoImplicit false

/-- Whether the argument `s`, without `=`, names a flag taken to be followed by its value:
`--name` or `-x` where the flag is not known to take no value. -/
def takesValue (flags : List FlagSpec) (s : Bytes) : Bool :=
  let noValue (f : Option FlagSpec) := match f with
    | some f => f.implied?.isSome
    | none => false
  if s.contains 61 then false
  else
    match s with
    | 45 :: 45 :: name => !noValue (findLong flags name)
    | [45, c] => !noValue (findShort flags c)
    | _ => false

/-- The command words of a command line: the arguments that are neither flags nor values of
flags, read up to `--`. -/
def commandWords (flags : List FlagSpec) : List Bytes → List Bytes
  | [] => []
  | s :: rest =>
    if s == text "--" then []
    else if takesValue flags s then
      match rest with
      | [] => []
      | _ :: rest' => commandWords flags rest'
    else if !s.isEmpty && s.head? != some 45 then s :: commandWords flags rest
    else commandWords flags rest

/-- The command line without its first argument equal to `x` that is neither a flag nor the
value of a flag, looking no further than `--`. -/
def dropWord (flags : List FlagSpec) (x : Bytes) : List Bytes → List Bytes
  | [] => []
  | s :: rest =>
    if s == text "--" then s :: rest
    else if takesValue flags s then
      match rest with
      | [] => [s]
      | v :: rest' => s :: v :: dropWord flags x rest'
    else if s.head? != some 45 && s == x then rest
    else s :: dropWord flags x rest

/-- The arguments of a completion request, and whether it leaves descriptions out, when the
first command word asks for completions. `flags` are the command's flags without `--help`. -/
def completionRequest? (flags : List FlagSpec) (args : List Bytes) :
    Option (List Bytes × Bool) :=
  match commandWords flags args with
  | w :: _ =>
    if w == text "__complete" then some (dropWord flags w args, false)
    else if w == text "__completeNoDesc" then some (dropWord flags w args, true)
    else none
  | [] => none

/-- What the shell should do besides offering the completions. -/
inductive Directive where
  | default
  | noSpace
  | noFileComp
  deriving DecidableEq, Repr

/-- The number a directive is written as. -/
def Directive.code : Directive → Nat
  | .default => 0
  | .noSpace => 2
  | .noFileComp => 4

/-- The name of a directive. -/
def Directive.name : Directive → Bytes
  | .default => text "ShellCompDirectiveDefault"
  | .noSpace => text "ShellCompDirectiveNoSpace"
  | .noFileComp => text "ShellCompDirectiveNoFileComp"

/-- The completions of a request, the directive, and the failure met, if any. -/
structure Completion where
  choices : List Bytes
  directive : Directive
  failure : Option Bytes

/-- The completions a flag's names give for the typed word: the long name, then the
one-letter name, each with a tab and the usage line. -/
def nameChoices (typed : Bytes) (f : FlagSpec) : List Bytes :=
  let long := text "--" ++ f.name
  let short := match f.short with
    | some c => if typed.isPrefixOf [45, c] then [[45, c] ++ 9 :: f.usage] else []
    | none => []
  (if typed.isPrefixOf long then [long ++ 9 :: f.usage] else []) ++ short

/-- Whether an argument looks like a flag to the completion logic: `--` and at least one more
byte, or `-` and a byte other than `-`. -/
def looksLikeFlag (arg : Bytes) : Bool :=
  (arg.length ≥ 3 && (text "--").isPrefixOf arg) ||
    (arg.length ≥ 2 && arg.head? == some 45 && arg[1]? != some 45)

/-- The flag a name given in a completion request stands for: a one-letter name is looked up
as a one-letter flag name only. -/
def findNamed (specs : List FlagSpec) (name : Bytes) : Option FlagSpec :=
  match name with
  | [c] => (findShort specs c).bind fun f => findLong specs f.name
  | _ => findLong specs name

/-- The flag whose value is being completed, if any, with the arguments to read as flags, the
typed word, and the failure when the flag named is unknown. The flag is named before `=` in a
typed word starting with `-`, or else by the argument before the typed word when that looks
like a flag without `=`; a flag that takes no value is no flag to complete. -/
def flagBeingCompleted (command : Bytes) (specs : List FlagSpec) (before : List Bytes)
    (typed : Bytes) : Option FlagSpec × List Bytes × Bytes × Option Bytes :=
  let named (flagName : Bytes) (withEqual : Bool) (value : Bytes) :
      Option FlagSpec × List Bytes × Bytes × Option Bytes :=
    let (flagName, trimmed) :=
      if !flagName.isEmpty then (flagName, before)
      else
        match before.getLast? with
        | some prev =>
          if looksLikeFlag prev && !prev.contains 61 then
            ((if (text "--").isPrefixOf prev then prev.drop 2 else prev.drop (prev.length - 1)),
              before.dropLast)
          else ([], before)
        | none => ([], before)
    if flagName.isEmpty then (none, trimmed, value, none)
    else
      match findNamed specs flagName with
      | none =>
        (none, before, typed, some (text "Subcommand '" ++ command ++
          text "' does not support flag '" ++ flagName ++ text "'"))
      | some f =>
        if !withEqual && f.implied?.isSome then (none, before, value, none)
        else (some f, trimmed, value, none)
  match typed with
  | 45 :: _ =>
    if typed.contains 61 then
      let head := typed.takeWhile (· != 61)
      let flagName :=
        if (text "--").isPrefixOf head then head.drop 2 else head.drop (head.length - 1)
      named flagName true (typed.drop (head.length + 1))
    else (none, before, typed, none)
  | _ => named [] false typed

/-- A list of arguments written as `[a b c]`. -/
def argumentList (args : List Bytes) : Bytes := [91] ++ Bytes.join [32] args ++ [93]

/-- The completions of the arguments `args` (at least one: the last is the word being typed)
for the command `command` with flags `specs`, of which `required` must be set. -/
def complete (command : Bytes) (specs : List FlagSpec) (required : List Bytes)
    (args : List Bytes) : Completion :=
  let (flag?, before, typed, unknownFlag) :=
    flagBeingCompleted command specs args.dropLast (args.getLast?.getD [])
  match parseFlags specs before with
  | .error msg =>
    ⟨[], .default, some (text "Error while parsing flags from args " ++ argumentList before ++
      text ": " ++ msg)⟩
  | .ok p =>
    -- with `--` already given, a further `--` is read as an argument: no flag completion then
    let flagCompletion : Bool := match parseFlags specs (before ++ [text "--"]) with
      | .ok q => q.args.length ≤ p.args.length
      | .error _ => true
    let sorted := specs.mergeSort fun a b => Bytes.lexLe a.name b.name
    let unset := sorted.filter fun f => !p.changed f.name
    let requiredChoices :=
      (unset.filter fun f => required.contains f.name).flatMap (nameChoices typed)
    match unknownFlag, flagCompletion with
    | some e, true => ⟨[], .default, some e⟩
    | _, _ =>
      if p.changed (text "help") then ⟨[], .noFileComp, none⟩
      else if flag?.isNone && typed.head? == some 45 && !typed.contains 61 && flagCompletion then
        let choices :=
          if requiredChoices.isEmpty then unset.flatMap (nameChoices typed) else requiredChoices
        let directive :=
          match choices with
          | [only] => if only.getLast? == some 61 then .noSpace else .noFileComp
          | _ => .noFileComp
        ⟨choices, directive, none⟩
      else if flag?.isNone then ⟨requiredChoices, .default, none⟩
      else ⟨[], .default, none⟩

/-- What a completion request prints on standard output and on standard error. Each
completion is cut at its first newline (and at its first tab when descriptions are left out)
and trimmed of blanks. -/
def completionOutput (noDescriptions : Bool) (c : Completion) : Bytes × Bytes :=
  let line (choice : Bytes) :=
    let choice := if noDescriptions then choice.takeWhile (· != 9) else choice
    trimBlank (choice.takeWhile (· != 10)) ++ [10]
  let failure := match c.failure with
    | some e => text "[Debug] [Error] " ++ e ++ [10]
    | none => []
  (c.choices.flatMap line ++ [58] ++ decimal c.directive.code ++ [10],
    failure ++ text "Completion ended with directive: " ++ c.directive.name ++ [10])

/-- The usage text of the completion request of command `command`. -/
def completeUsage (command : Bytes) : Bytes :=
  let help : FlagSpec :=
    ⟨text "help", some 104, .bool, text "false", text "help for __complete"⟩
  text "Usage:\n  " ++ command ++ text " __complete [command-line]\n\nAliases:\n" ++
    text "  __complete, __completeNoDesc\n\nFlags:\n" ++ trimEnd (flagUsages [help]) ++ [10]

end FastqFixtures.Cli
