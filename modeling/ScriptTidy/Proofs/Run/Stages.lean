import ScriptTidy.Pipeline

/-!
# A pipeline is its rules, one run after the other

`Leads` says what it means to run rules by themselves, each on the text that the run before it left. A pipeline does
just that: it succeeds exactly when every run does, and otherwise it names the first rule whose run fails, with the
error of that run (`runAll_composes`). One stage in front of the others is one run in front of them
(`runStages_of_error`, `runStages_of_ok`); the rest is induction over the stages.
-/

namespace ScriptTidy

private theorem Rule.rule_of_check {rule : Rule} {f : Facts} {set : EditSet} {result : RuleResult}
    (h : rule.check f = .ok (set, result)) : result.rule = rule := by
  unfold check at h
  dsimp only at h
  split at h
  · cases h
  · cases h
    rfl

namespace Pipeline

variable {parser : Parser} {p : Pipeline} {file text : String} {index : Nat} {rule : Rule} {rules : List Rule}

/-- Run by themselves, each on the text that the run before it left, the rules lead from one text to another. The
results of the runs come in the order of the rules. -/
inductive Leads (parser : Parser) (p : Pipeline) (file : String) :
    String → List Rule → String → List RuleResult → Prop
  | nil (text : String) : Leads parser p file text [] text []
  | cons {rule : Rule} {rules : List Rule} {text last : String} {report : RunReport} {results : List RuleResult} :
    p.runRule parser rule text file = .ok report → Leads parser p file report.updatedText rules last results →
    Leads parser p file text (rule :: rules) last (report.results ++ results)

/-! ### One stage -/

private theorem rule_of_applyRule {tree : Tree} {updated : String} {result : RuleResult}
    (h : p.applyRule parser rule tree file = .ok (updated, result)) : result.rule = rule := by
  unfold applyRule at h
  split at h
  · cases h
  · rename_i edits result' hcheck
    have hrule := Rule.rule_of_check hcheck
    repeat' split at h
    all_goals cases h
    all_goals exact hrule

private theorem map_rule_of_runRule {report : RunReport} (h : p.runRule parser rule text file = .ok report) :
    report.results.map (·.rule) = [rule] := by
  unfold runRule at h
  split at h
  · cases h
  · rename_i updated result hstep
    cases h
    unfold step at hstep
    split at hstep
    · cases hstep
    · rw [List.map_singleton, rule_of_applyRule hstep]

theorem runStages_of_error {cause : RunError} (h : p.runRule parser rule text file = .error cause) :
    p.runStages parser file index text (rule :: rules) = .error (.stageFailed rule index cause) := by
  unfold runRule at h
  split at h
  · rename_i hstep
    cases h
    rw [runStages, hstep]
  · cases h

theorem runStages_of_ok {report : RunReport} (h : p.runRule parser rule text file = .ok report) :
    p.runStages parser file index text (rule :: rules) =
      (p.runStages parser file (index + 1) report.updatedText rules).map fun rest =>
        ⟨rest.updatedText, report.results ++ rest.results⟩ := by
  unfold runRule at h
  split at h
  · cases h
  · rename_i updated result hstep
    cases h
    rw [runStages, hstep]
    dsimp only
    cases p.runStages parser file (index + 1) updated rules <;> rfl

/-! ### All stages -/

private theorem Leads.map_rule {last : String} {results : List RuleResult}
    (h : Leads parser p file text rules last results) :
    results.map (·.rule) = rules := by
  induction h with
  | nil text => rfl
  | cons hrun _ ih => rw [List.map_append, map_rule_of_runRule hrun, ih, List.singleton_append]

theorem runStages_eq_ok_iff {last : String} {results : List RuleResult} :
    p.runStages parser file index text rules = .ok ⟨last, results⟩ ↔ Leads parser p file text rules last results := by
  induction rules generalizing index text results with
  | nil =>
    constructor
    · rintro ⟨⟩
      exact .nil last
    · rintro ⟨⟩
      rfl
  | cons rule rules ih =>
    constructor
    · intro h
      cases hrun : p.runRule parser rule text file with
      | error cause =>
        rw [runStages_of_error hrun] at h
        cases h
      | ok first =>
        rw [runStages_of_ok hrun] at h
        cases hrest : p.runStages parser file (index + 1) first.updatedText rules with
        | error e =>
          rw [hrest] at h
          cases h
        | ok rest =>
          rw [hrest] at h
          cases h
          exact .cons hrun (ih.1 hrest)
    · intro h
      cases h with
      | cons hrun htail =>
        rw [runStages_of_ok hrun, ih.2 htail]
        rfl

/-- The stages are numbered from `index` on. So the first that fails has as many numbers in between as there are
stages that succeed. -/
private theorem runStages_eq_error_iff {e : RunError} : p.runStages parser file index text rules = .error e ↔
    ∃ front rule back middle results cause, rules = front ++ rule :: back ∧
      Leads parser p file text front middle results ∧ p.runRule parser rule middle file = .error cause ∧
      e = .stageFailed rule (index + front.length) cause := by
  induction rules generalizing index text with
  | nil => simp [runStages]
  | cons first rules ih =>
    cases hrun : p.runRule parser first text file with
    | error cause =>
      rw [runStages_of_error hrun]
      constructor
      · rintro ⟨⟩
        exact ⟨[], first, rules, text, [], cause, rfl, .nil text, hrun, rfl⟩
      · rintro ⟨front, rule, back, middle, results, cause', hrules, hfront, hfail, rfl⟩
        cases hfront with
        | nil =>
          cases hrules
          cases hrun.symm.trans hfail
          rfl
        | cons hok _ =>
          cases hrules
          cases hrun.symm.trans hok
    | ok report =>
      have htail : p.runStages parser file index text (first :: rules) = .error e ↔
          p.runStages parser file (index + 1) report.updatedText rules = .error e := by
        rw [runStages_of_ok hrun]
        cases p.runStages parser file (index + 1) report.updatedText rules <;> simp [Except.map]
      rw [htail, ih]
      constructor
      · rintro ⟨front, rule, back, middle, results, cause, rfl, hfront, hfail, rfl⟩
        refine ⟨first :: front, rule, back, middle, _, cause, rfl, .cons hrun hfront, hfail, ?_⟩
        rw [List.length_cons, Nat.add_right_comm, Nat.add_assoc]
      · rintro ⟨front, rule, back, middle, results, cause, hrules, hfront, hfail, rfl⟩
        cases hfront with
        | nil =>
          -- the first stage succeeds, and so is not the one that fails
          cases hrules
          cases hrun.symm.trans hfail
        | cons hok hfront =>
          cases hrules
          cases hrun.symm.trans hok
          refine ⟨_, rule, back, middle, _, cause, rfl, hfront, hfail, ?_⟩
          rw [List.length_cons, Nat.add_right_comm, Nat.add_assoc]

/-- A pipeline is the composition of runs of its rules, up to the first that fails. It gives a report exactly when the
rules, run by themselves one after the other, lead to the report's text with the report's results, one for each stage.
It fails exactly when some run fails behind runs that succeed, and then the error tells the rule of that stage, the
number of stages in front of it, and the error of the run. -/
theorem runAll_composes (parser : Parser) (p : Pipeline) (text file : String) :
    (∀ report, p.runAll parser text file = .ok report ↔
      Leads parser p file text p.stages report.updatedText report.results) ∧
    (∀ report, p.runAll parser text file = .ok report → report.results.map (·.rule) = p.stages) ∧
    ∀ e, p.runAll parser text file = .error e ↔
      ∃ front rule back middle results cause, p.stages = front ++ rule :: back ∧
        Leads parser p file text front middle results ∧ p.runRule parser rule middle file = .error cause ∧
        e = .stageFailed rule front.length cause := by
  refine ⟨fun report => runStages_eq_ok_iff, fun report h => (runStages_eq_ok_iff.1 h).map_rule, fun e => ?_⟩
  rw [runAll, runStages_eq_error_iff]
  simp only [Nat.zero_add]

end Pipeline

end ScriptTidy
