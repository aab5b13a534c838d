import ScriptTidy.Command.Complaint
import ScriptTidy.Command.Similarity

/-!
# Reading arguments

The arguments of a command line are read from left to right, first those before the command and then those behind it.
Values are collected and looked at only when the next flag or the end comes, so that of two faults the one that is
noticed first is reported.
-/

namespace ScriptTidy

/-- How changed texts are handed over. -/
structure Delivery where
  /-- Show what would change. -/
  dryRun : Bool
  /-- Print the changed texts. -/
  stdout : Bool
  deriving DecidableEq, Repr

/-- Changed texts are written to their files. -/
def Delivery.writesFiles (d : Delivery) : Bool := !d.dryRun && !d.stdout

/-- Which files to work on. -/
structure Targets where
  paths : List String
  exclude : List String
  deriving DecidableEq, Repr

/-- The paths given, or the working directory if there are none. -/
def Targets.list (t : Targets) : List String := if t.paths.isEmpty then ["."] else t.paths

/-- What to do. -/
inductive Request where
  | run (rule : Rule) (targets : Targets) (delivery : Delivery)
  | all (targets : Targets) (delivery : Delivery)
  | summary (targets : Targets)
  | rules
  | init
  | server
  deriving DecidableEq, Repr

/-- What arguments come to. -/
inductive Interpretation where
  | help (level : Level)
  | version
  /-- There are no arguments. -/
  | nothing
  | refused (complaint : Complaint)
  | request (request : Request) (json verbose : Bool)
  deriving DecidableEq, Repr

namespace Arguments

/-- Why reading stops before the end. -/
inductive Stop where
  | help (level : Level)
  | version
  | refused (complaint : Complaint)

/-- What has been read at one level. -/
structure State where
  level : Level
  /-- The arguments that are complete, in the order of their first places. -/
  used : List Argument
  /-- An argument that may still get values, with those it has. -/
  pending : Option (Argument × List String)
  /-- How many arguments have been called by their places, all paths counted as one. -/
  places : Nat
  rule : Option Rule
  paths : List String
  exclude : List String
  /-- Two hyphens have been read, and only values follow. -/
  valuesOnly : Bool

namespace State

def start (level : Level) : State := ⟨level, [], none, 0, none, [], [], false⟩

/-- The argument is complete. -/
def mark (s : State) (a : Argument) : State :=
  { s with used := if s.used.contains a then s.used else s.used ++ [a] }

/-- The argument has been given. -/
def has (s : State) (f : Flag) : Bool := s.used.contains (.flag f)

/-- Look at the values that have been collected. -/
def settle (s : State) : Except Stop State :=
  match s.pending with
  | none => .ok s
  | some (a, values) =>
    let s := { s.mark a with pending := none }
    match a with
    | .flag f =>
      if values.isEmpty then .error (.refused (.missingValue f.text))
      else .ok { s with exclude := s.exclude ++ values }
    | .positional .rule =>
      match Rule.ofId (values.headD "") with
      | .ok rule => .ok { s with rule := some rule }
      | .error e => .error (.refused (.unknownRule e))
    | .positional p =>
      if values.contains "" then .error (.refused (.missingValue (p.text p.isRequired)))
      else .ok { s with paths := s.paths ++ values }

/-- A flag waits for its value. -/
def waits (s : State) : Bool :=
  match s.pending with
  | some (.flag _, []) => true
  | _ => false

/-- Read a flag that takes no value. -/
def giveFlag (s : State) (f : Flag) : Except Stop State :=
  match s.settle with
  | .error e => .error e
  | .ok s =>
    match f with
    | .help => .error (.help s.level)
    | .version => .error .version
    | f => if s.has f then .error (.refused (.repeated s.level f)) else .ok (s.mark (.flag f))

/-- Read a flag that takes a value, which may be attached to it. -/
def giveOption (s : State) (f : Flag) (value : Option String) : Except Stop State :=
  match s.settle with
  | .error e => .error e
  | .ok s =>
    let s := { s with pending := some (.flag f, value.toList) }
    if value.isSome then s.settle else .ok s

/-- A flag of some command that is similar to a name, if that command is among the arguments that follow. The earliest
of these commands counts. -/
def elsewhere? (level : Level) (name : String) (following : List String) : Option (String × String) :=
  if level = .root then
    let found := Command.list.filterMap fun c => do
      let flag ← (Similarity.similar name (Level.command c).longs).getLast?
      let place ← following.findIdx? (· = c.name)
      return (place, c.name, "--" ++ flag)
    (found.mergeSort fun p q => p.1 ≤ q.1).head?.map (·.2)
  else none

/-- Read a name behind two hyphens that is no flag's. -/
def unknownLong (s : State) (name : String) (following : List String) : Complaint :=
  let similar := (Similarity.similar name s.level.longs).getLast?
  let used := match similar.bind s.level.long? with
    | some f => (s.mark (.flag f)).used
    | none => s.used
  let elsewhere := if similar.isNone then elsewhere? s.level name following else none
  let asValue := similar.isNone && elsewhere.isNone && !s.level.positionals.isEmpty
  .unknownArgument s.level ("--" ++ name) (similar.map ("--" ++ ·)) elsewhere asValue used

/-- Read an argument that starts with two hyphens, given without them. -/
def giveLong (s : State) (body : String) (following : List String) : Except Stop State :=
  let name := (body.takeWhile (· ≠ '=')).toString
  let rest := (body.dropWhile (· ≠ '=')).toString
  let value := if rest.isEmpty then none else some (rest.drop 1).toString
  match s.level.long? name with
  | none => .error (.refused (s.unknownLong name following))
  | some f =>
    if f.valueName?.isSome then s.giveOption f value
    else
      match value with
      | none => s.giveFlag f
      | some value =>
        let used := s.used.filter (· ≠ .positional .rule) ++ [.flag f]
        .error (.refused (.needlessValue s.level f value used))

/-- Read letters behind one hyphen. -/
def giveShort (s : State) : List Char → Except Stop State
  | [] => .ok s
  | c :: cs =>
    match s.level.short? c with
    | none =>
      let text := "-" ++ c.toString
      .error (.refused (.unknownArgument s.level text none none (!s.level.positionals.isEmpty) []))
    | some f =>
      if f.valueName?.isSome then
        let attached := if cs.head? = some '=' then cs.tail else cs
        s.giveOption f (if cs.isEmpty then none else some (String.ofList attached))
      else
        match s.giveFlag f with
        | .error e => .error e
        | .ok s => s.giveShort cs

/-- Read a value for which the level has no place. -/
def needless (s : State) (text : String) : Complaint :=
  if s.level = .root then
    if s.valuesOnly ∧ (Command.ofName? text).isSome then .commandAsValue text
    else .unknownCommand .root text (Similarity.similar text (Command.list.map Command.name))
  else .unknownArgument s.level text none none false []

/-- Read an argument that is called by its place. -/
def givePlace (s : State) (text : String) : Except Stop State :=
  match s.level.positionals[s.places]? with
  | none => .error (.refused (s.needless text))
  | some p =>
    match s.pending with
    | some (.positional .paths, values) =>
      .ok { s with pending := some (.positional .paths, values ++ [text]) }
    | _ =>
      match s.settle with
      | .error e => .error e
      | .ok s =>
        .ok { s with
          pending := some (.positional p, [text])
          places := if p.isMany then s.places else s.places + 1 }

/-- Read one argument that is no command. -/
def give (s : State) (text : String) (following : List String) : Except Stop State :=
  if s.valuesOnly then s.givePlace text
  else if text = "--" then .ok { s with valuesOnly := true }
  else if text.startsWith "--" then s.giveLong (text.drop 2).toString following
  else if text.startsWith "-" ∧ text ≠ "-" then s.giveShort (text.drop 1).toString.toList
  else if s.waits then
    match s.pending with
    | some (a, _) => .ok { s with pending := some (a, [text]) }
    | none => .ok s
  else s.givePlace text

/-- Two flags that cannot be used together: the first of them in the order of their places, and the other one. -/
def conflict? (s : State) : Option (Flag × Flag) :=
  let flags := s.used.filterMap fun
    | .flag f => some f
    | .positional _ => none
  flags.findSome? fun f => (flags.find? f.conflicts).map (f, ·)

/-- What is wrong with the arguments of a command as a whole. -/
def fault? (s : State) : Option Complaint :=
  match s.conflict? with
  | some (f, g) => some (.conflict s.level f g (s.used.filter (· ≠ .flag g)))
  | none => if s.level = .command .run ∧ s.rule.isNone then some (.missingRule s.used) else none

end State

/-- Read the arguments behind a command. -/
def readCommand (s : State) : List String → Except Stop State
  | [] =>
    match s.settle with
    | .error e => .error e
    | .ok s =>
      match s.fault? with
      | some c => .error (.refused c)
      | none => .ok s
  | text :: rest =>
    match s.give text rest with
    | .error e => .error e
    | .ok s => readCommand s rest

/-- The help that is asked for by the names of commands. -/
def helpFor (level : Level) : List String → Stop
  | [] => .help level
  | name :: names =>
    match level, Command.ofName? name with
    | .root, some c => helpFor (.command c) names
    | level, _ => .refused (.unknownCommand level name [])

/-- The request that the arguments of a command make. -/
def requestOf (c : Command) (s : State) : Request :=
  let targets : Targets := ⟨s.paths, s.exclude⟩
  let delivery : Delivery := ⟨s.has .dryRun, s.has .stdout⟩
  match c, s.rule with
  | .run, some rule => .run rule targets delivery
  | .all, _ | .run, none => .all targets delivery
  | .summary, _ => .summary targets
  | .rules, _ => .rules
  | .init, _ => .init
  | .server, _ | .help, _ => .server

/-- What reading comes to when it stops. -/
def Stop.interpretation : Stop → Interpretation
  | .help level => .help level
  | .version => .version
  | .refused c => .refused c

/-- Read the arguments before a command, and those behind it. -/
def readRoot (s : State) : List String → Interpretation
  | [] => if s.used.isEmpty then .nothing else .refused .missingCommand
  | text :: rest =>
    match s.valuesOnly, Command.ofName? text with
    | false, some .help => (helpFor .root rest).interpretation
    | false, some c =>
      match readCommand (.start (.command c)) rest with
      | .error e => e.interpretation
      | .ok t => .request (requestOf c t) (s.has .json || t.has .json) (s.has .verbose || t.has .verbose)
    | _, _ =>
      match s.give text rest with
      | .error e => e.interpretation
      | .ok s => readRoot s rest

/-- Read the arguments of a command line. -/
def read (arguments : List String) : Interpretation := readRoot (.start .root) arguments

end Arguments

end ScriptTidy
