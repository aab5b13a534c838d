import ScriptTidy.Proofs.Rule.Settled
import ScriptTidy.Proofs.Run.Verification

/-!
# A second run

A stage that reports no change leaves its text alone and is settled on it (`unchanged_iff`), and the same holds of all
the stages of a run that reports none (`Leads.unchanged_iff`). So a run has left a text on which all the stages behind
the last change are settled (`Leads.isSettled_behind`), and a second run changes nothing exactly if the others are
settled on it, too (`second_run_changes_nothing_iff`). An earlier stage need not be: what a later one takes away can be
the last use of an import (`second_run_removes_import`).
-/

namespace ScriptTidy

namespace Pipeline

variable {parser : Parser} {p : Pipeline} {file text updated : String} {rule : Rule} {rules : List Rule}

/-- The text has a tree, on which the rule has nothing to do. -/
def IsSettledOn (parser : Parser) (p : Pipeline) (file text : String) (rule : Rule) : Prop :=
  ∃ tree, Tree.parse parser file text = .ok tree ∧ rule.IsSettled (.ofTree tree p.settings)

/-! ### Runs that change nothing -/

private theorem step_of_isSettledOn (h : IsSettledOn parser p file text rule) :
    ∃ result, p.step parser rule text file = .ok (text, result) ∧ result.changed = false := by
  obtain ⟨tree, htree, hsettled⟩ := h
  obtain ⟨set, result, hcheck⟩ := Rule.check_of_isSettled hsettled
  obtain ⟨hempty, hchanged⟩ := Rule.isSettled_of_check hcheck
  have hset := hempty.1 hsettled
  have hsource := Tree.source_of_parse htree
  refine ⟨result, ?_, hchanged.2 hset⟩
  simp only [step, htree, applyRule, hcheck, if_pos hset, hsource]

/-- One run of a rule changes nothing exactly if the rule is settled on the text, which is then left alone. -/
theorem unchanged_iff : (∃ result, p.step parser rule text file = .ok (updated, result) ∧ result.changed = false) ↔
    updated = text ∧ IsSettledOn parser p file text rule := by
  constructor
  · rintro ⟨result, hstep, hchanged⟩
    obtain ⟨tree, set, htree, hcheck, hcases⟩ := step_cases hstep
    obtain ⟨hempty, hchanged'⟩ := Rule.isSettled_of_check hcheck
    have hset := hchanged'.1 hchanged
    rcases hcases with ⟨-, hsame⟩ | ⟨hnonempty, -⟩
    · exact ⟨hsame, tree, htree, hempty.2 hset⟩
    · rw [hset] at hnonempty
      cases hnonempty
  · rintro ⟨rfl, hsettled⟩
    exact step_of_isSettledOn hsettled

/-- Rules run one after the other change nothing exactly if all of them are settled on the text. -/
theorem Leads.unchanged_iff {last : String} :
    (∃ results, Leads parser p file text rules last results ∧ ∀ r ∈ results, r.changed = false) ↔
      last = text ∧ ∀ rule ∈ rules, IsSettledOn parser p file text rule := by
  induction rules generalizing text with
  | nil =>
    constructor
    · rintro ⟨results, ⟨⟩, -⟩
      exact ⟨rfl, by simp⟩
    · rintro ⟨rfl, -⟩
      exact ⟨[], .nil last, by simp⟩
  | cons rule rules ih =>
    constructor
    · rintro ⟨results, hleads, hunchanged⟩
      cases hleads with
      | @cons _ _ _ _ report results hrun hrest =>
        obtain ⟨result, hstep, hresults⟩ := runRule_eq_ok_iff.1 hrun
        rw [hresults, List.singleton_append, List.forall_mem_cons] at hunchanged
        obtain ⟨hsame, hfirst⟩ := Pipeline.unchanged_iff.1 ⟨result, hstep, hunchanged.1⟩
        rw [hsame] at hrest
        obtain ⟨hlast, hall⟩ := ih.1 ⟨results, hrest, hunchanged.2⟩
        exact ⟨hlast, List.forall_mem_cons.2 ⟨hfirst, hall⟩⟩
    · rintro ⟨rfl, hall⟩
      obtain ⟨hfirst, hall⟩ := List.forall_mem_cons.1 hall
      obtain ⟨result, hstep, hchanged⟩ := Pipeline.unchanged_iff.2 ⟨rfl, hfirst⟩
      obtain ⟨results, hleads, hunchanged⟩ := ih.2 ⟨rfl, hall⟩
      have hrun : p.runRule parser rule last file = .ok ⟨last, [result]⟩ := runRule_eq_ok_iff.2 ⟨result, hstep, rfl⟩
      exact ⟨[result] ++ results, .cons hrun hleads, List.forall_mem_cons.2 ⟨hchanged, hunchanged⟩⟩

/-- A run that changes nothing, by the stages. -/
private theorem runAll_unchanged_iff :
    (∃ report, p.runAll parser text file = .ok report ∧ report.updatedText = text ∧ report.changed = false) ↔
      ∀ rule ∈ p.stages, IsSettledOn parser p file text rule := by
  have hchanged : ∀ report : RunReport, report.changed = false ↔ ∀ r ∈ report.results, r.changed = false := by
    intro report
    simp [RunReport.changed]
  constructor
  · rintro ⟨⟨last, results⟩, hrun, rfl, hunchanged⟩
    exact (Leads.unchanged_iff.1 ⟨results, runStages_eq_ok_iff.1 hrun, (hchanged _).1 hunchanged⟩).2
  · intro hall
    obtain ⟨results, hleads, hunchanged⟩ := Leads.unchanged_iff.2 ⟨rfl, hall⟩
    exact ⟨⟨text, results⟩, runStages_eq_ok_iff.2 hleads, rfl, (hchanged _).2 hunchanged⟩

/-! ### What the first run leaves -/

/-- A stage is settled on the text that a run leaves, if from this stage on nothing changed. -/
theorem Leads.isSettled_behind {last : String} {results : List RuleResult}
    (h : Leads parser p file text rules last results) {k : Nat} (hrule : rules[k]? = some rule)
    (hbehind : ∀ r ∈ results.drop k, r.changed = false) : IsSettledOn parser p file last rule := by
  induction h generalizing k with
  | nil text => cases hrule
  | @cons first rules text last report results hrun hrest ih =>
    cases k with
    | zero =>
      -- the run has changed nothing, so that the text is still the first one
      have hmem : rule ∈ first :: rules := List.mem_of_getElem? hrule
      obtain ⟨rfl, hall⟩ := Leads.unchanged_iff.1 ⟨_, .cons hrun hrest, hbehind⟩
      exact hall rule hmem
    | succ k =>
      obtain ⟨result, -, hresults⟩ := runRule_eq_ok_iff.1 hrun
      rw [hresults] at hbehind
      exact ih hrule hbehind

/-- A second run succeeds, gives the same text and reports no change exactly if every rule is settled on the text that
the first run left, for which there is something to show only where that stage or a later one changed something. -/
theorem second_run_changes_nothing_iff (parser : Parser) (p : Pipeline) (text file : String) (report : RunReport)
    (h : p.runAll parser text file = .ok report) :
    (∃ again, p.runAll parser report.updatedText file = .ok again ∧ again.updatedText = report.updatedText ∧
      again.changed = false) ↔
    ∀ k rule, p.stages[k]? = some rule → (∃ r ∈ report.results.drop k, r.changed = true) →
      ∃ tree, Tree.parse parser file report.updatedText = .ok tree ∧ rule.IsSettled (.ofTree tree p.settings) := by
  have hleads : Leads parser p file text p.stages report.updatedText report.results := runStages_eq_ok_iff.1 h
  rw [runAll_unchanged_iff]
  constructor
  · intro hall k rule hrule _
    exact hall rule (List.mem_of_getElem? hrule)
  · intro hchanged rule hmem
    obtain ⟨k, hrule⟩ := List.getElem?_of_mem hmem
    by_cases hbehind : ∃ r ∈ report.results.drop k, r.changed = true
    · exact hchanged k rule hrule hbehind
    · refine hleads.isSettled_behind hrule fun r hr => ?_
      by_contra hr'
      exact hbehind ⟨r, hr, by simpa using hr'⟩

/-- A run deletes a variable and changes a `var`, and a second one finds nothing to do. -/
theorem second_run_changes_nothing_behind_var :
    ∃ report again, standard.runAll faultyTexts "let a = 1; var b = 2; b; (" "" = .ok report ∧
      report.updatedText = " let b = 2; b; (" ∧ report.changed = true ∧
      standard.runAll faultyTexts report.updatedText "" = .ok again ∧ again.updatedText = report.updatedText ∧
      again.changed = false := by
  have hrun : (standard.runAll faultyTexts "let a = 1; var b = 2; b; (" "").toOption.map
      (fun report => (report.updatedText, report.changed)) = some (" let b = 2; b; (", true) := by decide +kernel
  obtain ⟨report, hreport, heq⟩ := exists_of_map_toOption hrun
  obtain ⟨htext, hchanged⟩ := Prod.mk.inj heq
  have hparse : (Tree.parse faultyTexts "" " let b = 2; b; (").toOption.map
      (fun tree => Rule.all.all fun rule => (rule.propose (.ofTree tree .standard)).edits = []) = some true := by
    decide +kernel
  obtain ⟨tree, htree, hnone⟩ := exists_of_map_toOption hparse
  obtain ⟨again, hagain, hsame, hunchanged⟩ :=
    (second_run_changes_nothing_iff faultyTexts standard _ "" report hreport).2 fun k rule hrule _ => by
      have hmem : rule ∈ Rule.all := List.mem_of_getElem? hrule
      rw [htext]
      exact ⟨tree, htree, Rule.isSettled_iff.2 (of_decide_eq_true (List.all_eq_true.1 hnone rule hmem))⟩
  exact ⟨report, again, hreport, htext, hchanged, hagain, hsame, hunchanged⟩

/-- The statement `import { a } from "m";` at the start of a text. -/
private def importOfA : BareNode :=
  .importing (.regular .importClause none 7 12 [.braced .namedImports none 7 12 [.specifier .importSpecifier 9 10]])

/-- A parser for a text with an import that is used by one variable only, and for what is left of it. -/
def importForVariable : Parser := fun _ text =>
  if text = "import \x7b a \x7d from \"m\"; const b = a;" then
    some (.regular .program none 0 35
      [importOfA, .lexical "const" 23 28 35 [.initialized 29 30 (.identifier (some .value) 33 34)]])
  else if text = "import \x7b a \x7d from \"m\";" then some (.regular .program none 0 22 [importOfA])
  else if text = "" then some (.regular .program none 0 0 [])
  else none

/-- The imports are looked at before the variables. So when a variable goes that was the last to use an import, only a
second run takes the import out. -/
theorem second_run_removes_import :
    ∃ report again,
      standard.runAll importForVariable "import \x7b a \x7d from \"m\"; const b = a;" "a.js" = .ok report ∧
      report.updatedText = "import \x7b a \x7d from \"m\";" ∧
      standard.runAll importForVariable report.updatedText "a.js" = .ok again ∧ again.updatedText = "" ∧
      again.changed = true := by
  have hfirst : (standard.runAll importForVariable "import \x7b a \x7d from \"m\"; const b = a;" "a.js").toOption.map
      (·.updatedText) = some "import \x7b a \x7d from \"m\";" := by decide +kernel
  have hsecond : (standard.runAll importForVariable "import \x7b a \x7d from \"m\";" "a.js").toOption.map
      (fun report => (report.updatedText, report.changed)) = some ("", true) := by decide +kernel
  obtain ⟨report, hreport, htext⟩ := exists_of_map_toOption hfirst
  obtain ⟨again, hagain, heq⟩ := exists_of_map_toOption hsecond
  obtain ⟨hempty, hchanged⟩ := Prod.mk.inj heq
  rw [← htext] at hagain
  exact ⟨report, again, hreport, htext, hagain, hempty, hchanged⟩

end Pipeline

end ScriptTidy
