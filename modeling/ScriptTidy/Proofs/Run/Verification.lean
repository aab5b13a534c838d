import ScriptTidy.Proofs.Run.Stages
import ScriptTidy.Proofs.Syntax.Nesting

/-!
# Verified runs add no faults

A stage that proposes edits parses its text again when runs are to be verified, and a stage that proposes none leaves
its text alone (`step_cases`). Either way the text it leaves has a tree with no more faults than the tree it was given
(`faults_of_runRule`). `Course` lists the trees of the texts that a run passes through; along it the number of faults
never rises (`exists_course`), however many stages there are.
-/

namespace ScriptTidy

theorem Tree.source_of_parse {parser : Parser} {file source : String} {tree : Tree}
    (h : parse parser file source = .ok tree) : tree.source = source := by
  unfold parse parseAs at h
  split at h
  · cases h
  · rw [ofBare_eq] at h
    split at h
    · cases h
    · cases h
      rfl

namespace Pipeline

variable {parser : Parser} {p : Pipeline} {file text updated : String} {rule : Rule} {rules : List Rule}

private theorem verified_eq_ok {tree : Tree} (h : verified parser rule tree file updated = .ok ()) :
    ∃ after, Tree.parse parser file updated = .ok after ∧ after.faultCount ≤ tree.faultCount := by
  unfold verified at h
  split at h
  · cases h
  · rename_i after hafter
    split at h
    · cases h
    · exact ⟨after, hafter, by omega⟩

/-- A stage checks the tree of its text. It leaves the text alone if there is nothing to edit. Otherwise it applies the
edits, and looks at the tree of the new text if runs are verified. -/
theorem step_cases {result : RuleResult} (h : p.step parser rule text file = .ok (updated, result)) :
    ∃ tree set, Tree.parse parser file text = .ok tree ∧
      rule.check (.ofTree tree p.settings) = .ok (set, result) ∧
      (set.isEmpty = true ∧ updated = text ∨
        set.isEmpty = false ∧ set.apply text = .ok updated ∧
          (p.verify = true → ∃ after, Tree.parse parser file updated = .ok after ∧
            after.faultCount ≤ tree.faultCount)) := by
  unfold step at h
  cases htree : Tree.parse parser file text with
  | error e =>
    rw [htree] at h
    cases h
  | ok tree =>
    have hsource := Tree.source_of_parse htree
    rw [htree] at h
    unfold applyRule at h
    dsimp only at h
    rw [hsource] at h
    split at h
    · cases h
    · rename_i set result' hcheck
      refine ⟨tree, set, rfl, ?_⟩
      by_cases hempty : set.isEmpty = true
      · rw [if_pos hempty] at h
        cases h
        exact ⟨hcheck, .inl ⟨hempty, rfl⟩⟩
      · rw [if_neg hempty] at h
        split at h
        · cases h
        · rename_i updated' happly
          have hnonempty : set.isEmpty = false := by simpa using hempty
          by_cases hverify : p.verify = true
          · rw [if_pos hverify] at h
            split at h
            · cases h
            · rename_i hverified
              cases h
              exact ⟨hcheck, .inr ⟨hnonempty, happly, fun _ => verified_eq_ok hverified⟩⟩
          · rw [if_neg hverify] at h
            cases h
            exact ⟨hcheck, .inr ⟨hnonempty, happly, fun hv => absurd hv hverify⟩⟩

theorem runRule_eq_ok_iff {report : RunReport} : p.runRule parser rule text file = .ok report ↔
    ∃ result, p.step parser rule text file = .ok (report.updatedText, result) ∧ report.results = [result] := by
  unfold runRule
  cases hstep : p.step parser rule text file with
  | error e => simp
  | ok pair =>
    obtain ⟨updated, result⟩ := pair
    constructor
    · rintro ⟨⟩
      exact ⟨result, rfl, rfl⟩
    · rintro ⟨result', heq, hresults⟩
      cases report
      cases heq
      cases hresults
      rfl

theorem exists_of_map_toOption {ε α β : Type} {x : Except ε α} {f : α → β} {b : β}
    (h : x.toOption.map f = some b) : ∃ a, x = .ok a ∧ f a = b := by
  cases x with
  | error e => cases h
  | ok a => exact ⟨a, rfl, Option.some.inj h⟩

/-- A verified run of one rule adds no faults. -/
theorem faults_of_runRule (hverify : p.verify = true) {report : RunReport}
    (h : p.runRule parser rule text file = .ok report) :
    ∃ before after, Tree.parse parser file text = .ok before ∧
      Tree.parse parser file report.updatedText = .ok after ∧ after.faultCount ≤ before.faultCount := by
  obtain ⟨result, hstep, -⟩ := runRule_eq_ok_iff.1 h
  obtain ⟨before, set, hbefore, -, ⟨-, hsame⟩ | ⟨-, -, hafter⟩⟩ := step_cases hstep
  · rw [hsame]
    exact ⟨before, before, hbefore, hbefore, Nat.le_refl _⟩
  · obtain ⟨after, hafter, hle⟩ := hafter hverify
    exact ⟨before, after, hbefore, hafter, hle⟩

/-- The trees are those of the texts that the rules pass through, run one after the other on the text that the run
before left: first that of the given text, and then one behind each rule, up to that of the last text. -/
inductive Course (parser : Parser) (p : Pipeline) (file : String) : String → List Rule → String → List Tree → Prop
  | stop {text : String} {tree : Tree} :
      Tree.parse parser file text = .ok tree → Course parser p file text [] text [tree]
  | stage {rule : Rule} {rules : List Rule} {text last : String} {tree : Tree} {report : RunReport}
    {trees : List Tree} : Tree.parse parser file text = .ok tree → p.runRule parser rule text file = .ok report →
    Course parser p file report.updatedText rules last trees →
    Course parser p file text (rule :: rules) last (tree :: trees)

theorem Leads.exists_course (hverify : p.verify = true) {last : String} {results : List RuleResult}
    (h : Leads parser p file text rules last results) {tree : Tree} (htree : Tree.parse parser file text = .ok tree) :
    ∃ trees, Course parser p file text rules last (tree :: trees) ∧
      (tree :: trees).Pairwise (fun a b => b.faultCount ≤ a.faultCount) ∧
      ∃ final, Tree.parse parser file last = .ok final ∧ final.faultCount ≤ tree.faultCount := by
  induction h generalizing tree with
  | nil text => exact ⟨[], .stop htree, List.pairwise_singleton _ _, tree, htree, Nat.le_refl _⟩
  | @cons rule rules text last report results hrun _ ih =>
    obtain ⟨before, after, hbefore, hafter, hle⟩ := faults_of_runRule hverify hrun
    obtain rfl : tree = before := Except.ok.inj (htree.symm.trans hbefore)
    obtain ⟨trees, hcourse, hpair, final, hfinal, hlast⟩ := ih hafter
    refine ⟨after :: trees, .stage htree hrun hcourse, List.pairwise_cons.2 ⟨?_, hpair⟩, final, hfinal, by omega⟩
    intro other hother
    rcases List.mem_cons.1 hother with rfl | hother
    · exact hle
    · have hrest := (List.pairwise_cons.1 hpair).1 other hother
      omega

private theorem Leads.exists_tree (hverify : p.verify = true) {last : String} {results : List RuleResult}
    (h : Leads parser p file text rules last results) (hne : rules ≠ []) :
    ∃ tree, Tree.parse parser file text = .ok tree := by
  cases h with
  | nil text => exact absurd rfl hne
  | cons hrun _ =>
    obtain ⟨before, -, hbefore, -⟩ := faults_of_runRule hverify hrun
    exact ⟨before, hbefore⟩

/-- Where runs are verified, a successful run leaves a text that has a tree, with no more faults than the tree of the
given text. That holds of a single rule and of a pipeline with at least one stage, and along the stages of the pipeline
the number of faults never rises from one text to the next. -/
theorem verified_runs_add_no_faults (parser : Parser) (p : Pipeline) (hverify : p.verify = true) (text file : String) :
    (∀ rule report, p.runRule parser rule text file = .ok report →
      ∃ before after, Tree.parse parser file text = .ok before ∧
        Tree.parse parser file report.updatedText = .ok after ∧ after.faultCount ≤ before.faultCount) ∧
    ∀ report, p.stages ≠ [] → p.runAll parser text file = .ok report →
      ∃ before after trees, Tree.parse parser file text = .ok before ∧
        Tree.parse parser file report.updatedText = .ok after ∧ after.faultCount ≤ before.faultCount ∧
        Course parser p file text p.stages report.updatedText trees ∧
        trees.Pairwise fun a b => b.faultCount ≤ a.faultCount := by
  refine ⟨fun rule report hrun => faults_of_runRule hverify hrun, ?_⟩
  intro report hne hrun
  have hleads : Leads parser p file text p.stages report.updatedText report.results := runStages_eq_ok_iff.1 hrun
  obtain ⟨before, hbefore⟩ := hleads.exists_tree hverify hne
  obtain ⟨trees, hcourse, hpair, after, hafter, hle⟩ := hleads.exists_course hverify hbefore
  exact ⟨before, after, _, hbefore, hafter, hle, hcourse, hpair⟩

/-- A statement that uses a variable, and behind it a bracket that is never closed. -/
private def useAndFault (start : Nat) : List BareNode :=
  [.expression (.identifier none start (start + 1)),
   .mk ⟨.other "ERROR", none, true, true, false, ⟨start + 3, start + 4⟩⟩ [.sign "(" (start + 3)]]

/-- A parser for three texts with a fault. -/
def faultyTexts : Parser := fun _ text =>
  if text = "let a = 1; var b = 2; b; (" then
    some (.regular .program none 0 26 (.oneByLet 0 :: .oneByVar none 11 :: useAndFault 22))
  else if text = " var b = 2; b; (" then some (.regular .program none 1 16 (.oneByVar none 1 :: useAndFault 12))
  else if text = " let b = 2; b; (" then some (.regular .program none 1 16 (.oneByLet 1 :: useAndFault 12))
  else none

/-- Two stages change a text with a fault in it, and leave a text with one fault. -/
theorem verified_runs_add_no_faults_twice :
    let p : Pipeline := ⟨.standard, [.unusedVariables, .bindings], true⟩
    p.verify = true ∧ p.stages ≠ [] ∧
    ∃ report before after trees, p.runAll faultyTexts "let a = 1; var b = 2; b; (" "" = .ok report ∧
      report.updatedText = " let b = 2; b; (" ∧
      Tree.parse faultyTexts "" "let a = 1; var b = 2; b; (" = .ok before ∧ before.faultCount = 1 ∧
      Tree.parse faultyTexts "" report.updatedText = .ok after ∧ after.faultCount ≤ before.faultCount ∧
      Course faultyTexts p "" "let a = 1; var b = 2; b; (" p.stages report.updatedText trees ∧
      trees.Pairwise fun a b => b.faultCount ≤ a.faultCount := by
  intro p
  have hstages : p.stages ≠ [] := by simp [p]
  have hrun : (p.runAll faultyTexts "let a = 1; var b = 2; b; (" "").toOption.map (·.updatedText) =
      some " let b = 2; b; (" := by decide +kernel
  obtain ⟨report, hreport, htext⟩ := exists_of_map_toOption hrun
  have hcount : (Tree.parse faultyTexts "" "let a = 1; var b = 2; b; (").toOption.map (·.faultCount) = some 1 := by
    decide +kernel
  obtain ⟨before, after, trees, hbefore, hafter, hle, hcourse, hpair⟩ :=
    (verified_runs_add_no_faults faultyTexts p rfl _ "").2 report hstages hreport
  rw [hbefore] at hcount
  exact ⟨rfl, hstages, report, before, after, trees, hreport, htext, hbefore, Option.some.inj hcount, hafter, hle,
    hcourse, hpair⟩

end Pipeline

end ScriptTidy
