import ScriptTidy.Config.Basic
import ScriptTidy.Report.Document

/-!
# Tools for assistants

The operations that a language assistant can call. A call has parameters as JSON and gives a text, which may be about
an error.
-/

namespace ScriptTidy

/-- The answer of a tool. -/
structure ToolAnswer where
  isError : Bool
  text : String
  deriving DecidableEq, Repr

/-- The tools. -/
inductive Tool where
  | runRule
  | runAll
  | summarizeDeclarations
  | listRules
  deriving DecidableEq, Repr

/-- Code to work on, with the name of its file. -/
structure Snippet where
  code : String
  file : String
  deriving DecidableEq, Repr

namespace Tools

/-- What an assistant is told about the tools. -/
def instructions : String := "Neatify rewrites JavaScript/TypeScript code with minimal, safe edits.

TOOLS AVAILABLE:
• run_rule - Run one rule (remove-unused-imports, remove-unused-variables, normalize-casing, modernize-bindings)
• run_all - Run every rule in order
• summarize_declarations - List declared variables and functions
• list_rules - Show rule ids

COMMON TASKS:
• 'Clean up this file' → run_all
• 'Remove unused imports' → run_rule with remove-unused-imports
• 'What does this module declare?' → summarize_declarations"

/-- The name of a file that is not given. -/
def defaultFile : String := "snippet.ts"

/-- Texts by their keys. Those at the end of `keys` may be missing, as many as there are `defaults`. The parameters are
an object, in which other keys do not matter, or an array with the values in order. -/
def textParameters (keys : List String) (defaults : List String) (parameters : Json) : Option (List String) :=
  let needed := keys.length - defaults.length
  let value? (i : Nat) (key : String) : Option Json :=
    match parameters with
    | .array items => items[i]?
    | v => v.field? key
  let fits : Bool := match parameters with
    | .array items => decide (items.length ≤ keys.length)
    | .object _ => true
    | _ => false
  if fits then
    keys.zipIdx.mapM fun (key, i) =>
      match value? i key with
      | some (.text s) => some s
      | some _ => none
      | none => if i < needed then none else defaults[i - needed]?
  else none

/-- The parameters of a tool that takes code only. -/
def snippet? (parameters : Json) : Option Snippet :=
  match textParameters ["code", "filename"] [defaultFile] parameters with
  | some [code, file] => some ⟨code, file⟩
  | _ => none

/-- The parameters of a tool that takes a rule and code. -/
def ruleAndSnippet? (parameters : Json) : Option (String × Snippet) :=
  match textParameters ["rule", "code", "filename"] [defaultFile] parameters with
  | some [rule, code, file] => some (rule, ⟨code, file⟩)
  | _ => none

/-- The answer of a run on a buffer. -/
def answerRun (run : Buffer × Except RunError (Option RunReport)) : ToolAnswer :=
  match run with
  | (buffer, .ok (some report)) => ⟨false, (Document.changedText report buffer.notices).pretty⟩
  | (buffer, .ok none) => ⟨true, "\n".intercalate buffer.notices⟩
  | (_, .error e) => ⟨true, s!"Rewrite error: {e.message}"⟩

/-- Run one rule. -/
def runRule (parser : Parser) (p : Pipeline) (rule : String) (s : Snippet) : ToolAnswer :=
  match Rule.ofId rule with
  | .error e => ⟨true, e.message⟩
  | .ok rule => answerRun (Session.runRule parser p (Buffer.ofText s.code s.file) rule)

/-- Run all rules. -/
def runAll (parser : Parser) (p : Pipeline) (s : Snippet) : ToolAnswer :=
  answerRun (Session.runAll parser p (Buffer.ofText s.code s.file))

/-- List the names that code declares. -/
def summarizeDeclarations (parser : Parser) (s : Snippet) : ToolAnswer :=
  match Pipeline.summarize parser s.code s.file with
  | .ok names => ⟨false, (Document.summary names).pretty⟩
  | .error e => ⟨true, s!"Analysis error: {e.message}"⟩

/-- List the rules. -/
def listRules (p : Pipeline) : ToolAnswer := ⟨false, (Document.rules p.stages).pretty⟩

/-- Call a tool. There is no answer if the parameters are not what it takes. -/
def call (parser : Parser) (p : Pipeline) (tool : Tool) (parameters : Json) : Option ToolAnswer :=
  match tool with
  | .runRule => (ruleAndSnippet? parameters).map fun (rule, s) => runRule parser p rule s
  | .runAll => (snippet? parameters).map (runAll parser p)
  | .summarizeDeclarations => (snippet? parameters).map (summarizeDeclarations parser)
  | .listRules => some (listRules p)

/-- The pipeline of a configuration, or the standard one if the configuration is refused. -/
def pipelineOf (c : Config) : Pipeline :=
  match c.pipeline with
  | .ok p => p
  | .error _ => .standard

end Tools

end ScriptTidy
