import ScriptTidy.Config.Basic
import ScriptTidy.Files.FileSystem

/-!
# A configuration to start with

The configuration file that a new project gets. It spells out the standard settings.
-/

namespace ScriptTidy

namespace Config

/-- The name of the configuration file. -/
def fileName : String := ".neatify.toml"

/-- The text of the configuration file for a new project. -/
def sample : String :=
  String.join <| List.map (· ++ "\n") [
    "[neatify]",
    "# Rules run by `neatify all`, in order",
    "rules = [",
    "    \"remove-unused-imports\",",
    "    \"remove-unused-variables\",",
    "    \"normalize-casing\",",
    "    \"modernize-bindings\",",
    "]",
    "",
    "# Names that are never removed or renamed",
    "ignore_names = []",
    "# ignore_pattern = \"^_\"     # Regex of names to leave alone",
    "",
    "keep_exported = true        # Leave exported declarations alone",
    "verify = true               # Reject rewrites that add syntax errors",
    "",
    "# Path filters (added to node_modules, dist, build, ...)",
    "exclude_folders = []"]

/-- Write the sample to a directory unless there is a configuration file. The files afterwards, and what is said about
it. -/
def create (files : FileSystem) (directory : String) : Except FileError (FileSystem × String) :=
  let path := Path.join directory fileName
  let opening := "Initializing Neatify configuration...\n"
  let closing := "Initialization complete!\n"
  if files.exists? path then
    .ok (files, opening ++ s!"  • {fileName} already exists - skipping.\n" ++ closing)
  else
    match files.writeText path sample with
    | .ok files => .ok (files, opening ++ s!"  • Created {fileName} with default configuration.\n" ++ closing)
    | .error e => .error e

end Config

end ScriptTidy
