import ScriptTidy.Command.Usage
import ScriptTidy.Rule.Basic

/-!
# Complaints about arguments

What can be wrong with the arguments of a command line, and the words in which a user is told.
-/

namespace ScriptTidy

/-- What is wrong with the arguments. -/
inductive Complaint where
  /-- There is no such argument. There may be a similar flag, or a similar flag of a command, or it may have been meant
  as a value. -/
  | unknownArgument (level : Level) (text : String) (similar : Option String) (elsewhere : Option (String × String))
    (asValue : Bool) (used : List Argument)
  /-- A command stands behind two hyphens, where only values are read. -/
  | commandAsValue (text : String)
  | unknownCommand (level : Level) (text : String) (similar : List String)
  | missingCommand
  | missingRule (used : List Argument)
  | conflict (level : Level) (first second : Flag) (used : List Argument)
  | repeated (level : Level) (flag : Flag)
  | needlessValue (level : Level) (flag : Flag) (value : String) (used : List Argument)
  | missingValue (argument : String)
  | unknownRule (cause : UnknownRule)
  deriving DecidableEq, Repr

namespace Complaint

/-- Words in quotes with commas between them. -/
def quoted (words : List String) : String := ", ".intercalate (words.map fun w => "'" ++ w ++ "'")

/-- What is wrong, in one sentence. -/
def sentence : Complaint → String
  | unknownArgument _ text .. | commandAsValue text => s!"unexpected argument '{text}' found"
  | unknownCommand _ text _ => s!"unrecognized subcommand '{text}'"
  | missingCommand =>
    let names := ", ".intercalate (Command.list.map Command.name)
    s!"'neatify' requires a subcommand but one was not provided\n  [subcommands: {names}]"
  | missingRule _ => s!"the following required arguments were not provided:\n  {Positional.rule.text true}"
  | conflict _ first second _ => s!"the argument '{first.text}' cannot be used with '{second.text}'"
  | repeated _ flag => s!"the argument '{flag.text}' cannot be used multiple times"
  | needlessValue _ flag value _ => s!"unexpected value '{value}' for '{flag.text}' found; no more were expected"
  | missingValue argument => s!"a value is required for '{argument}' but none was supplied"
  | unknownRule cause => s!"invalid value '{cause.name}' for '{Positional.rule.text true}': {cause.message}"

/-- What a user may want to do instead. -/
def tips : Complaint → List String
  | unknownArgument _ text similar elsewhere asValue _ =>
    (similar.map fun s => s!"a similar argument exists: '{s}'").toList ++
      (if asValue then [s!"to pass '{text}' as a value, use '-- {text}'"] else []) ++
      (elsewhere.map fun (command, flag) => s!"'{command} {flag}' exists").toList
  | commandAsValue text => [s!"subcommand '{text}' exists; to use it, remove the '--' before it"]
  | unknownCommand _ _ [similar] => [s!"a similar subcommand exists: '{similar}'"]
  | unknownCommand _ _ (first :: second :: rest) =>
    ["some similar subcommands exist: " ++ quoted (first :: second :: rest)]
  | _ => []

/-- The usage that goes with the complaint. -/
def usage? : Complaint → Option String
  | unknownArgument level _ _ _ _ used | conflict level _ _ used | needlessValue level _ _ used =>
    some (level.usage used)
  | commandAsValue _ | missingCommand => some (Level.root.usage [])
  | unknownCommand level _ _ | repeated level _ => some (level.usage [])
  | missingRule used => some ((Level.command .run).usage (used ++ [.positional .rule]))
  | missingValue _ | unknownRule _ => none

/-- The whole message. -/
def message (c : Complaint) : String :=
  let tips := "\n".intercalate (c.tips.map fun t => "  tip: " ++ t)
  let parts :=
    ["error: " ++ c.sentence] ++ (if c.tips.isEmpty then [] else [tips]) ++ c.usage?.toList ++
      ["For more information, try '--help'."]
  "\n\n".intercalate parts ++ "\n"

end Complaint

end ScriptTidy
