/-!
# The commands

The commands of the command line with their arguments. An argument is a flag, which is called by its name, or a value,
which is called by its place.
-/

namespace ScriptTidy

/-- An argument that is called by its name. -/
inductive Flag where
  | exclude
  | dryRun
  | stdout
  | json
  | verbose
  | help
  | version
  deriving DecidableEq, Repr

namespace Flag

/-- The name behind two hyphens. -/
def long : Flag → String
  | exclude => "exclude"
  | dryRun => "dry-run"
  | stdout => "stdout"
  | json => "json"
  | verbose => "verbose"
  | help => "help"
  | version => "version"

/-- Further names behind two hyphens, which are not shown. -/
def hiddenLongs : Flag → List String
  | exclude => ["exclude-folder"]
  | _ => []

/-- The letter behind one hyphen. -/
def short? : Flag → Option Char
  | exclude => some 'e'
  | verbose => some 'v'
  | help => some 'h'
  | version => some 'V'
  | _ => none

/-- The name of the value that the flag takes. -/
def valueName? : Flag → Option String
  | exclude => some "EXCLUDE"
  | _ => none

/-- The flag in one line. -/
def description : Flag → String
  | exclude => "Folders to exclude when walking directories"
  | dryRun => "Show a unified diff of what would change without writing files"
  | stdout => "Print the rewritten text instead of writing files"
  | json => "Output raw JSON"
  | verbose => "Enable verbose output for debugging (shows files being processed)"
  | help => "Print help"
  | version => "Print version"

/-- All names behind two hyphens. -/
def longs (f : Flag) : List String := f.long :: f.hiddenLongs

/-- The flag with its value, as messages name it. -/
def text (f : Flag) : String :=
  match f.valueName? with
  | some value => s!"--{f.long} <{value}>"
  | none => s!"--{f.long}"

/-- The two flags cannot be used together. -/
def conflicts (f g : Flag) : Bool := (f == dryRun && g == stdout) || (f == stdout && g == dryRun)

end Flag

/-- An argument that is called by its place. -/
inductive Positional where
  | rule
  | paths
  | command
  deriving DecidableEq, Repr

namespace Positional

def name : Positional → String
  | rule => "RULE"
  | paths => "PATHS"
  | command => "COMMAND"

def isRequired (p : Positional) : Bool := p == rule

/-- The argument may be given several times. -/
def isMany (p : Positional) : Bool := p != rule

def description : Positional → String
  | rule => "Rule to run (see `neatify rules`)"
  | paths =>
    "Files or directories to process. Directories are walked for JavaScript and TypeScript sources. " ++
      "When no paths are provided, defaults to the current directory"
  | command => "Print help for the subcommand(s)"

/-- The argument as messages name it, in angles if it is `needed` and in brackets otherwise. -/
def text (needed : Bool) (p : Positional) : String :=
  (if needed then "<" ++ p.name ++ ">" else "[" ++ p.name ++ "]") ++ if p.isMany then "..." else ""

end Positional

/-- An argument of either sort. -/
inductive Argument where
  | flag (f : Flag)
  | positional (p : Positional)
  deriving DecidableEq, Repr

/-- A command. -/
inductive Command where
  | run
  | all
  | summary
  | rules
  | init
  | server
  | help
  deriving DecidableEq, Repr

namespace Command

def list : List Command := [run, all, summary, rules, init, server, help]

def name : Command → String
  | run => "run"
  | all => "all"
  | summary => "summary"
  | rules => "rules"
  | init => "init"
  | server => "mcp-server"
  | help => "help"

/-- The command in one line. -/
def description : Command → String
  | run => "Run a single rule"
  | all => "Run every configured rule in order"
  | summary => "List declared variables and functions"
  | rules => "List available rules"
  | init => "Create a default .neatify.toml in the current directory"
  | server => "Start MCP server for LLM integration (Claude Desktop, VS Code Copilot, etc.)"
  | help => "Print this message or the help of the given subcommand(s)"

/-- The command of a given name. -/
def ofName? (name : String) : Option Command := list.find? (·.name = name)

end Command

/-- A place where arguments are read: before a command, or behind it. -/
inductive Level where
  | root
  | command (c : Command)
  deriving DecidableEq, Repr

namespace Level

def flags : Level → List Flag
  | root => [.json, .verbose, .help, .version]
  | command .run | command .all => [.exclude, .dryRun, .stdout, .json, .verbose, .help]
  | command .summary => [.exclude, .json, .verbose, .help]
  | command .help => []
  | command _ => [.json, .verbose, .help]

def positionals : Level → List Positional
  | command .run => [.rule, .paths]
  | command .all | command .summary => [.paths]
  | command .help => [.command]
  | _ => []

/-- The name of the program, and of the command if there is one. -/
def name : Level → String
  | root => "neatify"
  | command c => "neatify " ++ c.name

def description : Level → String
  | root =>
    "Neatify - Remove unused imports and variables, normalize casing and modernize bindings in " ++
      "JavaScript/TypeScript"
  | command c => c.description

/-- The flag with a name behind two hyphens. -/
def long? (l : Level) (name : String) : Option Flag := l.flags.find? (·.longs.contains name)

/-- The flag with a letter behind one hyphen. -/
def short? (l : Level) (letter : Char) : Option Flag := l.flags.find? (·.short? = some letter)

/-- All names behind two hyphens. -/
def longs (l : Level) : List String := l.flags.flatMap Flag.longs

end Level

end ScriptTidy
