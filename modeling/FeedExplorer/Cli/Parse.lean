import FeedExplorer.Cli.Help
import FeedExplorer.Cli.Similarity

/-!
# Reading a command line

The words of a command line become an invocation of the program, a help text to be printed, or a
complaint with a hint.
-/

namespace FeedExplorer.Cli

inductive Command where
  | setRpc (url : String)
  | blocks (query : Option String)
  | mint
  | upload (path : String)
  | download (id out : String)
  deriving DecidableEq, Repr

structure Invocation where
  rpcUrl : Option String
  rest : Bool
  command : Option Command
  deriving DecidableEq, Repr

/-- Why a command line is refused. -/
inductive Fault where
  | unknownFlag (spec : Spec) (name : String) (similar : Option Flag) (elsewhere : Option String)
      (asValue : Bool) (used : Option (List Flag))
  | unknownArgument (spec : Spec) (word : String) (asValue : Bool)
  | unknownCommand (spec : Spec) (word : String) (similar : List String)
  /-- A command stands behind the mark after which there are only arguments. -/
  | hiddenCommand (word : String)
  /-- The value of an option or argument, as it is called, is missing or empty. -/
  | missingValue (label : String)
  | needlessValue (spec : Spec) (flag : Flag) (value : String) (used : List Flag)
  | repeated (spec : Spec) (flag : Flag)
  | missingArgument (spec : Spec) (label : String) (used : List Flag)

/-- What a command line asks for other than a run. -/
inductive Stop where
  | help (spec : Spec)
  | version
  | fault (fault : Fault)

def quote (s : String) : String :=
  "'" ++ s ++ "'"

/-- The parts of a complaint, with an empty line between any two. -/
def complaint (parts : List String) : String :=
  "error: " ++ "\n\n".intercalate (parts ++ ["For more information, try '--help'."]) ++ "\n"

def tip (s : String) : String :=
  "  tip: " ++ s

def asValueTip (word : String) : String :=
  tip ("to pass " ++ quote word ++ " as a value, use " ++ quote ("-- " ++ word))

def Fault.message : Fault → String
  | .unknownFlag spec name similar elsewhere asValue used =>
    let tips :=
      (similar.map fun f => tip ("a similar argument exists: " ++ quote ("--" ++ f.long))).toList ++
      (elsewhere.map fun e => tip (quote e ++ " exists")).toList ++
      (if asValue then [asValueTip name] else [])
    complaint ([s!"unexpected argument {quote name} found"] ++ tips ++
      [(used.map (usageOf spec)).getD (usage spec)])
  | .unknownArgument spec word asValue =>
    complaint ([s!"unexpected argument {quote word} found"] ++
      (if asValue then [asValueTip word] else []) ++ [usage spec])
  | .unknownCommand spec word similar =>
    let tips := match similar with
      | [] => []
      | [one] => [tip ("a similar subcommand exists: " ++ quote one)]
      | many => [tip ("some similar subcommands exist: " ++ ", ".intercalate (many.map quote))]
    complaint ([s!"unrecognized subcommand {quote word}"] ++ tips ++ [usage spec])
  | .hiddenCommand word =>
    complaint [s!"unexpected argument {quote word} found",
      tip s!"subcommand {quote word} exists; to use it, remove the '--' before it", usage program]
  | .missingValue label =>
    complaint [s!"a value is required for {quote label} but none was supplied"]
  | .needlessValue spec flag value used =>
    complaint [s!"unexpected value {quote value} for {quote flag.signature} found; " ++
      "no more were expected", usageOf spec used]
  | .repeated spec flag =>
    complaint [s!"the argument {quote flag.signature} cannot be used multiple times", usage spec]
  | .missingArgument spec label used =>
    complaint ["the following required arguments were not provided:\n  " ++ label,
      usageOf spec used]

/-- The options and the argument given to a command so far, the latest first. -/
structure Given where
  flags : List (Flag × String)
  argument : Option String

def Given.none : Given :=
  { flags := [], argument := Option.none }

def Given.value? (g : Given) (f : Flag) : Option String :=
  g.flags.lookup f

def Given.flagsUsed (g : Given) : List Flag :=
  g.flags.reverse.map (·.1)

/-- The options used, if anything was used. -/
def Given.used? (g : Given) : Option (List Flag) :=
  if g.flags.isEmpty && g.argument.isNone then Option.none else some g.flagsUsed

/-- Puts an option to those given, unless it is there. -/
def Given.add (g : Given) (spec : Spec) (f : Flag) (value : String) : Except Stop Given :=
  if (g.value? f).isSome then .error (.fault (.repeated spec f))
  else if f.isPath && value.isEmpty then .error (.fault (.missingValue f.signature))
  else .ok { g with flags := (f, value) :: g.flags }

/-- A word that cannot be the value of an option before it. -/
def looksLikeFlag (word : String) : Bool :=
  word.startsWith "-" && word != "-"

/-- Parts a word at its first equals sign. -/
def splitEquals (cs : List Char) : String × Option String :=
  match cs.span (· ≠ '=') with
  | (name, _ :: value) => (String.ofList name, some (String.ofList value))
  | (name, []) => (String.ofList name, none)

/-- Hints for an option that does not exist. -/
def unknownFlag (spec : Spec) (g : Given) (name : String) (rest : List String) : Fault :=
  let near := fun flags : List Flag => (similarWords name (flags.map (·.long))).getLast?
  match (near spec.flags).bind spec.byLong? with
  | some f =>
    .unknownFlag spec ("--" ++ name) (some f) none false
      (some (g.flagsUsed ++ if g.flagsUsed.contains f then [] else [f]))
  | none =>
    let below := if spec.isProgram then commands else []
    let elsewhere := (rest.filterMap fun word => do
      let c ← below.find? (·.name == word)
      let f ← near c.flags
      some (c.name ++ " --" ++ f)).head?
    .unknownFlag spec ("--" ++ name) none elsewhere spec.argument.isSome g.used?

/-- A short option that does not exist. -/
def unknownShort (spec : Spec) (c : Char) : Fault :=
  .unknownArgument spec ("-" ++ String.singleton c) spec.argument.isSome

/-- An option without its value in front of another option, whose own fault is told first if it
does not exist. -/
def faultBefore (spec : Spec) (g : Given) (f : Flag) (word : String) (rest : List String) :
    Fault :=
  match word.toList with
  | ['-', '-'] => .missingValue f.signature
  | '-' :: '-' :: cs =>
    let (name, _) := splitEquals cs
    if (spec.byLong? name).isSome then .missingValue f.signature else unknownFlag spec g name rest
  | '-' :: c :: _ =>
    if (spec.byShort? c).isSome then .missingValue f.signature else unknownShort spec c
  | _ => .missingValue f.signature

/-- The value of an option, from the word itself or the one after it. -/
def takeValue (spec : Spec) (g : Given) (f : Flag) (inWord : Option String)
    (rest : List String) : Except Stop (String × List String) :=
  match inWord, rest with
  | some v, rest => .ok (v, rest)
  | none, v :: rest =>
    if looksLikeFlag v then .error (.fault (faultBefore spec g f v rest)) else .ok (v, rest)
  | none, [] => .error (.fault (.missingValue f.signature))

/-- Takes one option. -/
def takeFlag (spec : Spec) (g : Given) (f : Flag) (inWord : Option String) (rest : List String) :
    Except Stop (Given × List String) := do
  match f.valueName with
  | none =>
    match inWord with
    | some v => throw (.fault (.needlessValue spec f v (g.flagsUsed ++ [f])))
    | none =>
      if f.long = "help" then throw (.help spec)
      else if f.long = "version" then throw .version
      else return (← g.add spec f "", rest)
  | some _ =>
    let (v, rest) ← takeValue spec g f inWord rest
    return (← g.add spec f v, rest)

/-- Takes the short options of one word. -/
def takeShorts (spec : Spec) : List Char → Given → List String →
    Except Stop (Given × List String)
  | [], g, rest => .ok (g, rest)
  | c :: cs, g, rest =>
    match spec.byShort? c with
    | none => .error (.fault (unknownShort spec c))
    | some f =>
      if f.valueName.isNone then do
        let (g, rest) ← takeFlag spec g f none rest
        takeShorts spec cs g rest
      else
        match cs with
        | [] => takeFlag spec g f none rest
        | '=' :: value => takeFlag spec g f (some (String.ofList value)) rest
        | value => takeFlag spec g f (some (String.ofList value)) rest

/-- Takes one word that begins like an option. -/
def takeDashed (spec : Spec) (g : Given) (word : String) (rest : List String) :
    Except Stop (Given × List String) :=
  match word.toList with
  | '-' :: '-' :: cs =>
    let (name, inWord) := splitEquals cs
    match spec.byLong? name with
    | some f => takeFlag spec g f inWord rest
    | none => .error (.fault (unknownFlag spec g name rest))
  | cs => takeShorts spec cs.tail g rest

/-- Takes the argument of a command. -/
def takeArgument (spec : Spec) (g : Given) (word : String) : Except Stop Given :=
  match spec.argument, g.argument with
  | some a, none =>
    if a.isPath && word.isEmpty then .error (.fault (.missingValue a.label))
    else .ok { g with argument := some word }
  | _, _ => .error (.fault (.unknownArgument spec word false))

/-- Takes the words of a command that has no commands below it. The first argument bounds their
number; `plain` tells that options are no longer looked for. -/
def takeWords (spec : Spec) : Nat → Bool → Given → List String → Except Stop Given
  | 0, _, g, _ => .ok g
  | _ + 1, _, g, [] => .ok g
  | fuel + 1, plain, g, word :: rest =>
    if ¬ plain ∧ word = "--" then takeWords spec fuel true g rest
    else if ¬ plain ∧ looksLikeFlag word then do
      let (g, rest) ← takeDashed spec g word rest
      takeWords spec fuel false g rest
    else do
      takeWords spec fuel plain (← takeArgument spec g word) rest

/-- The help that is asked for by the names of commands. -/
def helpFor : List String → Stop
  | [] => .help program
  | name :: more =>
    match namedCommands.find? (·.name == name) with
    | none => .fault (.unknownCommand program name [])
    | some spec =>
      match more with
      | [] => .help spec
      | word :: _ => .fault (.unknownCommand spec word [])

/-- A word in the place of a command that is none. -/
def unknownCommand (word : String) : Fault :=
  .unknownCommand program word (similarWords word (namedCommands.map (·.name)))

/-- Takes the options in front of a command, the command and the words behind it. -/
def takeProgram : Nat → Given → List String → Except Stop (Given × Option (Spec × List String))
  | 0, g, _ => .ok (g, none)
  | _ + 1, g, [] => .ok (g, none)
  | _ + 1, g, ["--"] => .ok (g, none)
  | _ + 1, _, "--" :: word :: _ =>
    .error (.fault (if namedCommands.any (·.name == word) then .hiddenCommand word
      else unknownCommand word))
  | fuel + 1, g, word :: rest =>
    if looksLikeFlag word then do
      let (g, rest) ← takeDashed program g word rest
      takeProgram fuel g rest
    else if word = helpCommand.name then .error (helpFor rest)
    else
      match commands.find? (·.name == word) with
      | some spec => .ok (g, some (spec, rest))
      | none => .error (.fault (unknownCommand word))

/-- The options used, with those that the environment gives. -/
def usedWith (env : String → Option String) (spec : Spec) (g : Given) : List Flag :=
  g.flagsUsed ++ spec.flags.filter fun f =>
    (f.variable_.bind env).isSome && !g.flagsUsed.contains f

/-- The command that the words behind its name make. -/
def commandOf (env : String → Option String) (spec : Spec) (g : Given) : Except Stop Command :=
  match spec.argument, g.argument with
  | some a, none => .error (.fault (.missingArgument spec a.label (usedWith env spec g)))
  | _, argument =>
    let a := argument.getD ""
    match spec.name with
    | "set-rpc" => .ok (.setRpc a)
    | "blocks" => .ok (.blocks (g.value? queryFlag))
    | "mint" => .ok .mint
    | "upload" => .ok (.upload a)
    | _ => .ok (.download a ((g.value? outFlag).getD "."))

/-- The invocation that a command line makes in an environment. -/
def parse (env : String → Option String) (words : List String) : Except Stop Invocation := do
  let (g, sub) ← takeProgram (words.length + 1) .none words
  match sub with
  | none =>
    return { rpcUrl := (g.value? rpcFlag) <|> env "FEEDEX_RPC_URL"
             rest := (g.value? restFlag).isSome, command := none }
  | some (spec, rest) =>
    let inner ← takeWords spec (rest.length + 1) false .none rest
    let command ← commandOf env spec inner
    return { rpcUrl := (inner.value? rpcFlag) <|> (g.value? rpcFlag) <|> env "FEEDEX_RPC_URL"
             rest := (inner.value? restFlag).isSome || (g.value? restFlag).isSome
             command := some command }

end FeedExplorer.Cli
