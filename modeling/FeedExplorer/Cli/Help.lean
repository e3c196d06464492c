import FeedExplorer.Cli.Grammar
import FeedExplorer.Text.Field

/-!
# Help texts

The usage line of a command and its full help.
-/

namespace FeedExplorer.Cli

/-- The call of a command with what it can take. -/
def usage (s : Spec) : String :=
  "Usage: " ++ s.call ++
    (if s.flags.isEmpty then "" else " [OPTIONS]") ++
    (if s.isProgram then " [COMMAND]" else "") ++
    ((s.argument.map fun a => " " ++ a.label).getD "")

/-- The call of a command with the options that were used and the argument it needs. -/
def usageOf (s : Spec) (used : List Flag) : String :=
  "Usage: " ++ s.call ++ String.join (used.map fun f => " " ++ f.signature) ++
    ((s.argument.map fun a => " " ++ a.label).getD "")

/-- The names of an option in a list. -/
def flagEntry (f : Flag) : String :=
  (match f.short with
    | some c => "-" ++ String.singleton c ++ ", "
    | none => "    ") ++ f.signature

/-- What is said of an option, given the environment. -/
def flagHelp (env : String → Option String) (f : Flag) : String :=
  let notes :=
    (f.variable_.map fun v => "[env: " ++ v ++ "=" ++ (env v).getD "" ++ "]").toList ++
    (f.standard.map fun d => "[default: " ++ d ++ "]").toList
  " ".intercalate ((if f.help.isEmpty then [] else [f.help]) ++ notes)

/-- Names in a column, with what is said of each. -/
def columns (entries : List (String × String)) : String :=
  let width := entries.foldl (fun w (name, _) => max w name.length) 0
  String.join (entries.map fun (name, text) =>
    "  " ++ Text.alignLeft width name ++ "  " ++ text ++ "\n")

def helpText (env : String → Option String) (s : Spec) : String :=
  let commandPart :=
    if s.isProgram then
      "\nCommands:\n" ++ columns (namedCommands.map fun c => (c.name, c.about))
    else ""
  let argumentPart := match s.argument with
    | none => ""
    | some a => "\nArguments:\n" ++ columns [(a.label, a.help)]
  let optionPart :=
    if s.flags.isEmpty then ""
    else "\nOptions:\n" ++ columns (s.flags.map fun f => (flagEntry f, flagHelp env f))
  s.about ++ "\n\n" ++ usage s ++ "\n" ++ commandPart ++ argumentPart ++ optionPart

end FeedExplorer.Cli
