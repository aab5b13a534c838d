import ScriptTidy.Command.Basic

/-!
# Usage and help

How a command is called, in one line and at length.
-/

namespace ScriptTidy

namespace Level

/-- How the command is called in general. -/
def generalUsage (l : Level) : List String :=
  let options := if l.flags.any (· ≠ .help) then ["[OPTIONS]"] else []
  let values := l.positionals.map fun p => p.text p.isRequired
  l.name :: options ++ values ++ if l = root then ["<COMMAND>"] else []

/-- How the command is called with the arguments given. -/
def usageWith (l : Level) (used : List Argument) : List String :=
  let options := used.filterMap fun
    | .flag f => some f.text
    | .positional _ => none
  let values := l.positionals.map fun p => p.text (p.isRequired || used.contains (.positional p))
  l.name :: options ++ values ++ if l = root then ["<COMMAND>"] else []

/-- The line that says how the command is called, with the arguments given if there are any. -/
def usage (l : Level) (used : List Argument) : String :=
  "Usage: " ++ " ".intercalate (if used.isEmpty then l.generalUsage else l.usageWith used)

/-- Entries with descriptions in a column of their own. -/
def columns (entries : List (String × String)) : List String :=
  let width := (entries.map (·.1.length)).foldl max 0
  entries.map fun (entry, description) =>
    "  " ++ entry ++ String.ofList (List.replicate (width - entry.length) ' ') ++ "  " ++ description

/-- A heading with entries below it, or nothing if there are none. -/
def listing (heading : String) (entries : List (String × String)) : List String :=
  if entries.isEmpty then [] else ["\n".intercalate ((heading ++ ":") :: columns entries)]

/-- A flag in a list of flags, with room for a letter. -/
def flagEntry (f : Flag) : String :=
  match f.short? with
  | some letter => s!"-{letter}, {f.text}"
  | none => s!"    {f.text}"

/-- How the configuration file looks. -/
def configHelp : String := "CONFIGURATION FILE (.neatify.toml):
  Create this file in your project root to set defaults,
  or add a \"neatify\" object with the same keys to package.json.

  [neatify]
  # Rules run by `neatify all`, in order
  rules = [\"remove-unused-imports\", \"remove-unused-variables\",
           \"normalize-casing\", \"modernize-bindings\"]

  ignore_names = [\"React\"]   # Never removed or renamed
  ignore_pattern = \"^_\"       # Regex of names to leave alone
  keep_exported = true        # Leave exported declarations alone
  verify = true               # Reject rewrites that add syntax errors

  # Path filters
  exclude_folders = [\"vendor\", \"generated\"]"

/-- The help text. -/
def help (l : Level) : String :=
  let commands := if l = root then Command.list.map fun c => (c.name, c.description) else []
  let parts :=
    [l.description, l.usage []] ++ listing "Commands" commands ++
      listing "Arguments" (l.positionals.map fun p => (p.text p.isRequired, p.description)) ++
      listing "Options" (l.flags.map fun f => (flagEntry f, f.description)) ++
      if l = root then [configHelp] else []
  "\n\n".intercalate parts ++ "\n"

end Level

end ScriptTidy
