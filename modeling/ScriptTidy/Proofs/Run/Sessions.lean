import ScriptTidy.Session

/-!
# Sessions are atomic

A buffer is asked for runs and summaries, one after the other. `Moves` lists what a run can do to it: there is no text
to work on, the run fails, its text is the old one, or the new text is refused or taken. Each turn of a session is
therefore atomic (`isAtomic_turn`), and what every turn keeps is kept by all of them (`kept_history`). Together they
say what a buffer looks like after any number of turns (`sessions_are_atomic`).
-/

namespace ScriptTidy

/-! ### Messages -/

namespace Buffer

/-- The buffer with more messages, and otherwise as it was. -/
def noting (b : Buffer) (messages : List String) : Buffer := { b with notices := b.notices ++ messages }

@[simp] theorem text_noting (b : Buffer) (messages : List String) : (b.noting messages).text = b.text := rfl
@[simp] theorem applied_noting (b : Buffer) (messages : List String) : (b.noting messages).applied = b.applied := rfl
@[simp] theorem file_noting (b : Buffer) (messages : List String) : (b.noting messages).file = b.file := rfl
@[simp] theorem readOnly_noting (b : Buffer) (messages : List String) : (b.noting messages).readOnly = b.readOnly := rfl
@[simp] theorem notices_noting (b : Buffer) (messages : List String) :
    (b.noting messages).notices = b.notices ++ messages := rfl

/-- The buffer with a new text. -/
def taking (b : Buffer) (updated : String) : Buffer := { b with text := some updated, applied := b.applied + 1 }

@[simp] theorem text_taking (b : Buffer) (updated : String) : (b.taking updated).text = some updated := rfl
@[simp] theorem applied_taking (b : Buffer) (updated : String) : (b.taking updated).applied = b.applied + 1 := rfl
@[simp] theorem file_taking (b : Buffer) (updated : String) : (b.taking updated).file = b.file := rfl
@[simp] theorem readOnly_taking (b : Buffer) (updated : String) : (b.taking updated).readOnly = b.readOnly := rfl
@[simp] theorem notices_taking (b : Buffer) (updated : String) : (b.taking updated).notices = b.notices := rfl

end Buffer

namespace Session

private theorem notifyAll_eq_noting (b : Buffer) (messages : List String) :
    notifyAll b messages = b.noting messages := by
  induction messages generalizing b with
  | nil => simp [notifyAll, Buffer.noting]
  | cons m messages ih =>
    change notifyAll (b.noting [m]) messages = _
    rw [ih]
    simp [Buffer.noting]

/-! ### One run -/

/-- What a run can do to a buffer, and what it answers. -/
inductive Moves (b : Buffer) (work : Snapshot → Except RunError RunReport) :
    Buffer → Except RunError (Option RunReport) → Prop
  | closed : b.text = none → Moves b work (b.noting [noEditorNotice]) (.ok none)
  | failed {text : String} {e : RunError} (messages : List String) : b.text = some text →
    work ⟨text, b.file⟩ = .error e → Moves b work (b.noting messages) (.error e)
  | same {text : String} {report : RunReport} (messages : List String) : b.text = some text →
    work ⟨text, b.file⟩ = .ok report → report.updatedText = text →
    Moves b work (b.noting messages) (.ok (some report))
  | refused {text : String} {report : RunReport} (reason : String) (messages : List String) : b.text = some text →
    work ⟨text, b.file⟩ = .ok report → report.updatedText ≠ text → b.readOnly = true →
    Moves b work (b.noting messages) (.error (.sink reason))
  | taken {text : String} {report : RunReport} (messages : List String) : b.text = some text →
    work ⟨text, b.file⟩ = .ok report → report.updatedText ≠ text → b.readOnly = false →
    Moves b work ((b.taking report.updatedText).noting messages) (.ok (some report))

private theorem run_moves (b : Buffer) (work : Snapshot → Except RunError RunReport) (complaint : RunError → String)
    (account : RunReport → List String) :
    Moves b work (run b work complaint account).1 (run b work complaint account).2 := by
  have hsnapshot : Host.snapshot b = b.text.map (⟨·, b.file⟩) := rfl
  unfold run
  rw [hsnapshot]
  cases htext : b.text with
  | none => exact .closed htext
  | some text =>
    simp only [Option.map_some]
    cases hwork : work ⟨text, b.file⟩ with
    | error e => exact .failed [complaint e] htext hwork
    | ok report =>
      simp only [commit]
      by_cases hsame : report.updatedText = text
      · simp only [if_pos hsame, notifyAll_eq_noting]
        exact .same _ htext hwork hsame
      · simp only [if_neg hsame]
        cases hreject : b.readOnly with
        | true =>
          have haccept : Host.accept b report.updatedText = .error "buffer is read-only" := if_pos hreject
          simp only [haccept]
          exact .refused _ [_] htext hwork hsame hreject
        | false =>
          have haccept : Host.accept b report.updatedText = .ok (b.taking report.updatedText) :=
            if_neg (by simp [hreject])
          simp only [haccept, notifyAll_eq_noting]
          exact .taken _ htext hwork hsame hreject

/-! ### Turns -/

/-- What can be asked of a session. -/
inductive Call where
  | runRule (rule : Rule)
  | runAll
  | summarize
  deriving DecidableEq, Repr

/-- The answer to a call. -/
inductive Reply where
  | run (result : Except RunError (Option RunReport))
  | summary (result : Except RunError (Option DeclaredNames))

namespace Reply

/-- The call failed. -/
def isError : Reply → Bool
  | run (.error _) | summary (.error _) => true
  | _ => false

/-- There was nothing to work on. -/
def isNothing : Reply → Bool
  | run (.ok none) | summary (.ok none) => true
  | _ => false

end Reply

namespace Call

/-- What the pipeline makes of a text, where the call is for a run. -/
def work? (parser : Parser) (p : Pipeline) (text file : String) : Call → Option (Except RunError RunReport)
  | runRule rule => some (p.runRule parser rule text file)
  | runAll => some (p.runAll parser text file)
  | summarize => none

/-- The buffer after a call, and the answer. -/
def perform (parser : Parser) (p : Pipeline) (b : Buffer) : Call → Buffer × Reply
  | runRule rule => Prod.map id .run (Session.runRule parser p b rule)
  | runAll => Prod.map id .run (Session.runAll parser p b)
  | summarize => Prod.map id .summary (Session.summarize parser b)

end Call

/-- One call of a session, with the buffer before and after it. -/
structure Turn where
  before : Buffer
  call : Call
  reply : Reply
  after : Buffer

/-- The turn of a call. -/
def turn (parser : Parser) (p : Pipeline) (b : Buffer) (call : Call) : Turn :=
  ⟨b, call, (call.perform parser p b).2, (call.perform parser p b).1⟩

/-- The turns of some calls, one after the other. -/
def history (parser : Parser) (p : Pipeline) : Buffer → List Call → List Turn
  | _, [] => []
  | b, call :: calls => turn parser p b call :: history parser p (turn parser p b call).after calls

/-- A turn changes the text as a whole or not at all, and the answer tells which. -/
structure Turn.IsAtomic (parser : Parser) (p : Pipeline) (t : Turn) : Prop where
  /-- A call that fails leaves the text alone. -/
  failed : t.reply.isError = true → t.after.text = t.before.text ∧ t.after.applied = t.before.applied
  /-- Without a text there is one message, and nothing else happens. -/
  nothing_iff : t.reply.isNothing = true ↔ t.before.text = none
  nothing : t.reply.isNothing = true → t.after = t.before.noting [noEditorNotice]
  /-- A report is what the pipeline makes of the text, if the buffer takes it. -/
  report_iff : ∀ report, t.reply = .run (.ok (some report)) ↔ ∃ text, t.before.text = some text ∧
    t.call.work? parser p text t.before.file = some (.ok report) ∧
    (report.updatedText = text ∨ t.before.readOnly = false)
  /-- The text of the report is the text of the buffer, which counts it if it is new. -/
  report : ∀ report text, t.reply = .run (.ok (some report)) → t.before.text = some text →
    t.after.text = some report.updatedText ∧
    t.after.applied = t.before.applied + if report.updatedText = text then 0 else 1
  /-- A summary changes no text. -/
  summary : ∀ result, t.reply = .summary result → t.after.text = t.before.text ∧ t.after.applied = t.before.applied
  /-- Messages are only added. -/
  notices : t.before.notices <+: t.after.notices
  file : t.after.file = t.before.file
  readOnly : t.after.readOnly = t.before.readOnly

variable {parser : Parser} {p : Pipeline}

private theorem Moves.isAtomic {b b' : Buffer} {call : Call} {work : Snapshot → Except RunError RunReport}
    {result : Except RunError (Option RunReport)} (h : Moves b work b' result)
    (hwork : ∀ text, call.work? parser p text b.file = some (work ⟨text, b.file⟩)) :
    Turn.IsAtomic parser p ⟨b, call, .run result, b'⟩ := by
  cases h with
  | closed htext => constructor <;> simp [Reply.isError, Reply.isNothing, htext]
  | failed messages htext hfail => constructor <;> simp [Reply.isError, Reply.isNothing, htext, hwork, hfail]
  | same messages htext hrun hsame =>
    subst hsame
    constructor <;> simp [Reply.isError, Reply.isNothing, htext, hwork, hrun]
  | refused reason messages htext hrun hnew hreject =>
    constructor <;> simp [Reply.isError, Reply.isNothing, htext, hwork, hrun, hnew, hreject]
  | taken messages htext hrun hnew hreject =>
    constructor <;> simp [Reply.isError, Reply.isNothing, htext, hwork, hrun, hnew, hreject]

theorem isAtomic_turn (parser : Parser) (p : Pipeline) (b : Buffer) (call : Call) :
    (turn parser p b call).IsAtomic parser p := by
  cases call with
  | runRule rule => exact (run_moves b _ _ _).isAtomic fun _ => rfl
  | runAll => exact (run_moves b _ _ _).isAtomic fun _ => rfl
  | summarize =>
    have hsnapshot : Host.snapshot b = b.text.map (⟨·, b.file⟩) := rfl
    simp only [turn, Call.perform, Session.summarize, hsnapshot]
    cases htext : b.text with
    | none =>
      change Turn.IsAtomic parser p ⟨b, .summarize, .summary (.ok none), b.noting [noEditorNotice]⟩
      constructor <;> simp [Reply.isError, Reply.isNothing, Call.work?, htext]
    | some text =>
      simp only [Option.map_some]
      cases Pipeline.summarize parser text b.file with
      | error e =>
        change Turn.IsAtomic parser p ⟨b, .summarize, .summary (.error e), b⟩
        constructor <;> simp [Reply.isError, Reply.isNothing, Call.work?, htext]
      | ok names =>
        change Turn.IsAtomic parser p ⟨b, .summarize, .summary (.ok (some names)), b.noting [names.text]⟩
        constructor <;> simp [Reply.isError, Reply.isNothing, Call.work?, htext]

/-- A buffer that refuses new texts keeps the one it has, whatever the answer is. -/
private theorem Turn.IsAtomic.of_readOnly {t : Turn} (h : t.IsAtomic parser p) (hreject : t.before.readOnly = true) :
    t.after.text = t.before.text ∧ t.after.applied = t.before.applied := by
  cases hreply : t.reply with
  | summary result => exact h.summary result hreply
  | run result =>
    match result, hreply with
    | .error e, hreply => exact h.failed (by rw [hreply]; rfl)
    | .ok none, hreply =>
      rw [h.nothing (by rw [hreply]; rfl)]
      exact ⟨rfl, rfl⟩
    | .ok (some report), hreply =>
      -- the answer would not be a report, had the run found a new text
      obtain ⟨text, htext, -, hsame | hwritable⟩ := (h.report_iff report).1 hreply
      · have hafter := h.report report text hreply htext
        rw [if_pos hsame, hsame, Nat.add_zero] at hafter
        exact ⟨hafter.1.trans htext.symm, hafter.2⟩
      · rw [hreject] at hwritable
        cases hwritable

/-! ### Whole sessions -/

/-- What every turn keeps, all of them keep. -/
theorem kept_history {I : Buffer → Prop} (hturn : ∀ b call, I b → I (turn parser p b call).after) {b : Buffer}
    (hb : I b) (calls : List Call) : ∀ t ∈ history parser p b calls, I t.before ∧ I t.after := by
  induction calls generalizing b with
  | nil =>
    intro t ht
    cases ht
  | cons call calls ih =>
    have hnext := hturn b call hb
    intro t ht
    rcases List.mem_cons.1 ht with rfl | ht
    · exact ⟨hb, hnext⟩
    · exact ih hnext t ht

private theorem isAtomic_of_mem_history {b : Buffer} {calls : List Call} {t : Turn}
    (ht : t ∈ history parser p b calls) :
    t.IsAtomic parser p := by
  induction calls generalizing b with
  | nil => cases ht
  | cons call calls ih =>
    rcases List.mem_cons.1 ht with rfl | ht
    · exact isAtomic_turn parser p b call
    · exact ih ht

/-- Whatever is asked of a session, and in whatever order, every turn is atomic, messages are only added to those that
were there at first, and a buffer that refuses new texts has at all times the text and the count that it had at
first. -/
theorem sessions_are_atomic (parser : Parser) (p : Pipeline) (host : Buffer) (calls : List Call) :
    (∀ t ∈ history parser p host calls, t.IsAtomic parser p) ∧
    (∀ t ∈ history parser p host calls, host.notices <+: t.before.notices ∧ host.notices <+: t.after.notices) ∧
    (host.readOnly = true → ∀ t ∈ history parser p host calls,
      t.after.text = host.text ∧ t.after.applied = host.applied) := by
  refine ⟨fun t ht => isAtomic_of_mem_history ht, ?_, ?_⟩
  · refine kept_history (I := fun b => host.notices <+: b.notices) (fun b call hb => ?_) List.prefix_rfl calls
    exact hb.trans (isAtomic_turn parser p b call).notices
  · intro hreject t ht
    have hkept : ∀ b call, b.readOnly = true ∧ b.text = host.text ∧ b.applied = host.applied →
        (turn parser p b call).after.readOnly = true ∧ (turn parser p b call).after.text = host.text ∧
          (turn parser p b call).after.applied = host.applied := by
      rintro b call ⟨hb, htext, happlied⟩
      have hatomic := isAtomic_turn parser p b call
      obtain ⟨htext', happlied'⟩ := hatomic.of_readOnly hb
      exact ⟨hatomic.readOnly.trans hb, htext'.trans htext, happlied'.trans happlied⟩
    exact (kept_history (I := fun b => b.readOnly = true ∧ b.text = host.text ∧ b.applied = host.applied) hkept
      ⟨hreject, rfl, rfl⟩ calls t ht).2.2

end Session

end ScriptTidy
