import FastqFixtures.Cli.Flags

/-!
# Usage text

The usage and help texts of a command: a usage line and one line per flag, sorted by name.
A flag line shows the one-letter and long names, the name of the value (the word in
backquotes in the usage line, else the type; boolean flags take none), then the usage line
and the default when it is not the zero value of the type. The usage lines of all flags start
in one column, two spaces after the longest left part.

* `unquoteUsage` — the value name and the usage line without backquotes.
* `flagUsages` — the flag lines.
* `usageText`, `helpText`.
-/

namespace FastqFixtures.Cli

open FastqFixtures.Text

set_option autoImplicit false

/-- The name of a flag's value and its usage line without the backquotes. -/
def unquoteUsage (f : FlagSpec) : Bytes × Bytes :=
  let u := f.usage
  let before := u.takeWhile (· != 96)
  let after := u.drop (before.length + 1)
  let name := after.takeWhile (· != 96)
  if u.contains 96 && after.contains 96 then
    (name, before ++ name ++ after.drop (name.length + 1))
  else
    match f.kind with
    | .string => (text "string", u)
    | .int | .int64 => (text "int", u)
    | .bool => ([], u)

/-- Whether a flag's default is the zero value of its type. -/
def FlagSpec.defaultIsZero (f : FlagSpec) : Bool :=
  match f.kind with
  | .bool => f.default == text "false"
  | .int | .int64 => f.default == text "0"
  | .string => f.default.isEmpty

/-- The two parts of a flag's line: the names and value name, then the usage and default. -/
def FlagSpec.usageParts (f : FlagSpec) : Bytes × Bytes :=
  let (varName, usage) := unquoteUsage f
  let names := match f.short with
    | some c => text "  -" ++ [c] ++ text ", --" ++ f.name
    | none => text "      --" ++ f.name
  let left := names ++ (if varName.isEmpty then [] else 32 :: varName)
  let shownDefault :=
    if f.defaultIsZero then []
    else if f.kind == .string then text " (default " ++ quoted f.default ++ text ")"
    else text " (default " ++ f.default ++ text ")"
  (left, usage ++ shownDefault)

/-- The flag lines, sorted by flag name, each ending in a newline. -/
def flagUsages (specs : List FlagSpec) : Bytes :=
  let sorted := specs.mergeSort fun a b => Bytes.lexLe a.name b.name
  let parts := sorted.map FlagSpec.usageParts
  let width := (parts.map fun p => p.1.length + 1).foldl max 0
  parts.flatMap fun (left, right) =>
    left ++ 32 :: List.replicate (width - left.length) 32 ++ 32 :: right ++ [10]

/-- Bytes without trailing white space. -/
def trimEnd (bs : Bytes) : Bytes :=
  (bs.reverse.dropWhile fun b => b == 32 || b == 10 || b == 9 || b == 13).reverse

/-- The usage text of command `name` with flags `specs`. -/
def usageText (name : Bytes) (specs : List FlagSpec) : Bytes :=
  text "Usage:\n  " ++ name ++ text " [flags]\n\nFlags:\n" ++ trimEnd (flagUsages specs) ++ [10]

/-- The help text: the short description, a blank line and the usage text. -/
def helpText (name short : Bytes) (specs : List FlagSpec) : Bytes :=
  short ++ text "\n\n" ++ usageText name specs

end FastqFixtures.Cli
