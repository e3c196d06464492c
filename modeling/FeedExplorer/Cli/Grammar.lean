/-!
# Command grammar

The commands of the program with their options, and how an option is called.
-/

namespace FeedExplorer.Cli

/-- An option of a command. One without a value name is a switch. -/
structure Flag where
  long : String
  short : Option Char
  valueName : Option String
  help : String
  /-- The value that stands in for a missing one. -/
  standard : Option String
  /-- The variable of the environment that can give the value. -/
  variable_ : Option String
  /-- The value is a path, which is never empty. -/
  isPath : Bool
  deriving Repr, DecidableEq

/-- The argument of a command. -/
structure Argument where
  /-- How it stands in the call of the command. -/
  label : String
  help : String
  /-- It is the path of a file, which is never empty. -/
  isPath : Bool
  deriving Repr, DecidableEq

/-- A command, with the one argument that it may need. -/
structure Spec where
  name : String
  about : String
  flags : List Flag
  argument : Option Argument
  deriving Repr

namespace Flag

/-- The option with the name of its value. -/
def signature (f : Flag) : String :=
  "--" ++ f.long ++ ((f.valueName.map fun v => " <" ++ v ++ ">").getD "")

end Flag

def rpcFlag : Flag :=
  { long := "rpc", short := none, valueName := some "RPC"
    help := "Override the configured RPC URL for this run", standard := none
    variable_ := some "FEEDEX_RPC_URL", isPath := false }

def restFlag : Flag :=
  { long := "rest", short := none, valueName := none
    help := "Talk to the plain REST variant of the block source", standard := none
    variable_ := none, isPath := false }

def helpFlag : Flag :=
  { long := "help", short := some 'h', valueName := none, help := "Print help", standard := none
    variable_ := none, isPath := false }

def versionFlag : Flag :=
  { long := "version", short := some 'V', valueName := none, help := "Print version"
    standard := none, variable_ := none, isPath := false }

/-- Options that every command takes. -/
def sharedFlags : List Flag :=
  [rpcFlag, restFlag]

def queryFlag : Flag :=
  { long := "query", short := some 'q', valueName := some "QUERY", help := "", standard := none
    variable_ := none, isPath := false }

def outFlag : Flag :=
  { long := "out", short := some 'o', valueName := some "OUT", help := "", standard := some "."
    variable_ := none, isPath := true }

def programName : String := "feedex"

def versionLine : String := "feedex 0.1.0\n"

def program : Spec :=
  { name := "", about := "Terminal block feed explorer"
    flags := sharedFlags ++ [helpFlag, versionFlag], argument := none }

/-- A command with options of its own. -/
def command (name about : String) (flags : List Flag) (argument : Option Argument) : Spec :=
  { name, about, flags := flags ++ sharedFlags ++ [helpFlag], argument }

def commands : List Spec :=
  [command "set-rpc" "Persist the RPC URL to the config file" []
      (some ⟨"<URL>", "", false⟩),
    command "blocks" "Fetch the feed once and print the (filtered) blocks" [queryFlag] none,
    command "mint" "Mint a new block" [] none,
    command "upload" "Upload a file through `upload_file`" []
      (some ⟨"<PATH>", "", true⟩),
    command "download" "Download a file by id through `get_file`" [outFlag]
      (some ⟨"<ID>", "", false⟩)]

def helpCommand : Spec :=
  { name := "help", about := "Print this message or the help of the given subcommand(s)"
    flags := [], argument := some ⟨"[COMMAND]...", "Print help for the subcommand(s)", false⟩ }

/-- The commands that can be called by name. -/
def namedCommands : List Spec :=
  commands ++ [helpCommand]

def Spec.isProgram (s : Spec) : Bool :=
  s.name.isEmpty

/-- The words that call a command. -/
def Spec.call (s : Spec) : String :=
  if s.isProgram then programName else programName ++ " " ++ s.name

def Spec.byLong? (s : Spec) (long : String) : Option Flag :=
  s.flags.find? (·.long == long)

def Spec.byShort? (s : Spec) (short : Char) : Option Flag :=
  s.flags.find? (·.short == some short)

end FeedExplorer.Cli
