import ScriptTidy.Files.FileSystem
import ScriptTidy.Pipeline

/-!
# Sessions

A session runs a pipeline on the text that a host holds: an open buffer, or a file. The host hands the text over,
takes the new text if it differs, and shows messages. A host whose text cannot be had, or that refuses the new text,
stays as it is.
-/

namespace ScriptTidy

/-- The text of a host, with the name of its file. -/
structure Snapshot where
  text : String
  file : String
  deriving DecidableEq, Repr

/-- What a session needs of a host. -/
class Host (H : Type) where
  /-- The text, if there is one to work on. -/
  snapshot : H → Option Snapshot
  /-- Take a new text, or say why not. -/
  accept : H → String → Except String H
  /-- Show a message. -/
  notify : H → String → H

/-- The message where there is no text. -/
def noEditorNotice : String := "No active editor open!"

/-- The message after a pipeline. -/
def optimizedNotice : String := "File optimized!"

namespace Session

variable {H : Type} [Host H]

/-- Show messages one after the other. -/
def notifyAll (host : H) (messages : List String) : H := messages.foldl Host.notify host

/-- Hand over the text of a report, if it is new. -/
def commit (host : H) (snapshot : Snapshot) (report : RunReport) : H × Except RunError Unit :=
  if report.updatedText = snapshot.text then (host, .ok ())
  else
    match Host.accept host report.updatedText with
    | .ok host => (host, .ok ())
    | .error reason => (Host.notify host s!"Could not apply edits: {reason}", .error (.sink reason))

/-- Run something on the text of a host. `complaint` words its failure, and `account` its success. -/
def run (host : H) (work : Snapshot → Except RunError RunReport) (complaint : RunError → String)
    (account : RunReport → List String) : H × Except RunError (Option RunReport) :=
  match Host.snapshot host with
  | none => (Host.notify host noEditorNotice, .ok none)
  | some snapshot =>
    match work snapshot with
    | .error e => (Host.notify host (complaint e), .error e)
    | .ok report =>
      match commit host snapshot report with
      | (host, .error e) => (host, .error e)
      | (host, .ok ()) => (notifyAll host (account report), .ok (some report))

/-- Run one rule on the text of a host. -/
def runRule (parser : Parser) (p : Pipeline) (host : H) (rule : Rule) : H × Except RunError (Option RunReport) :=
  run host (fun s => p.runRule parser rule s.text s.file) RunError.message
    fun report => report.results.map fun r => "\n".intercalate r.summaryLines

/-- Run the pipeline on the text of a host. -/
def runAll (parser : Parser) (p : Pipeline) (host : H) : H × Except RunError (Option RunReport) :=
  run host (fun s => p.runAll parser s.text s.file) (fun e => s!"Optimization failed: {e.message}")
    fun report => report.summaries ++ [optimizedNotice]

/-- Show the names that the text of a host declares. -/
def summarize (parser : Parser) (host : H) : H × Except RunError (Option DeclaredNames) :=
  match Host.snapshot host with
  | none => (Host.notify host noEditorNotice, .ok none)
  | some snapshot =>
    match Pipeline.summarize parser snapshot.text snapshot.file with
    | .error e => (host, .error e)
    | .ok names => (Host.notify host names.text, .ok (some names))

end Session

/-- A host that holds one text in memory. -/
structure Buffer where
  /-- The text, if one is open. -/
  text : Option String
  file : String
  /-- Refuse every new text. -/
  readOnly : Bool
  /-- The messages so far. -/
  notices : List String
  /-- How many new texts were taken. -/
  applied : Nat
  deriving DecidableEq, Repr

namespace Buffer

/-- A buffer that holds a text. -/
def ofText (text file : String) : Buffer := ⟨some text, file, false, [], 0⟩

/-- A buffer without a text. -/
def closed : Buffer := ⟨none, "", false, [], 0⟩

instance : Host Buffer where
  snapshot b := b.text.map (⟨·, b.file⟩)
  accept b updated :=
    if b.readOnly then .error "buffer is read-only"
    else .ok { b with text := some updated, applied := b.applied + 1 }
  notify b message := { b with notices := b.notices ++ [message] }

end Buffer

/-- A host that holds the text of one file. -/
structure FileHost where
  files : FileSystem
  path : String
  /-- Write new texts to the file. Otherwise they are taken, and nothing happens. -/
  write : Bool
  notices : List String

namespace FileHost

instance : Host FileHost where
  snapshot h :=
    match h.files.readText h.path with
    | .ok text => some ⟨text, h.path⟩
    | .error _ => none
  accept h updated :=
    if h.write then
      match h.files.writeText h.path updated with
      | .ok files => .ok { h with files := files }
      | .error e => .error s!"{h.path}: {e.message}"
    else .ok h
  notify h message := { h with notices := h.notices ++ [message] }

end FileHost

end ScriptTidy
