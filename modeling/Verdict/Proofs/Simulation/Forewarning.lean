import Verdict.Command.Report
import Verdict.Proofs.Evaluation.Site
import Verdict.Proofs.Plugin.Wording
import Verdict.Proofs.Simulation.Inquiry

/-!
# Simulation: gaps are foreseen

The validation of a rule lists the names in it that nothing provides, without a run.  A run comes
upon them one leaf at a time: what an earlier leaf published is in the cache, the target is always
there, and only then is the registry asked.

* `Condition.gap_listed`: a leaf that ends with the text of a gap names something that the registry
  does not provide, and validation lists it.
* `Inquiry.gaps_foreseen`: so it is for every run of every engine with the same registry, and a rule
  that is validated without a warning never comes upon a gap.

The converse fails: a fact that is listed may be published by an earlier leaf.
-/

namespace Verdict

/-- The text is that of a fact that nothing provides, as far as its beginning tells. -/
def TellsOfFact (text : String) : Prop := LeafFault.unknownFactMark.toList <+: text.toList

/-- The text is that of an operator that nothing provides, as far as its beginning tells. -/
def TellsOfOperator (text : String) : Prop :=
  LeafFault.unknownOperatorMark.toList <+: text.toList

theorem Apart.not_tellsOfFact {text : String} (h : Apart text) : ¬TellsOfFact text :=
  h.not_prefix (by decide)

theorem Apart.not_tellsOfOperator {text : String} (h : Apart text) : ¬TellsOfOperator text :=
  h.not_prefix (by decide)

/-- The two marks differ, and one text does not begin with both. -/
theorem TellsOfFact.not_tellsOfOperator {text : String} (h : TellsOfFact text) :
    ¬TellsOfOperator text := by
  intro other
  have nested := List.prefix_of_prefix_length_le h other (by decide)
  exact absurd nested (by decide)

theorem tellsOfFact_message (name : String) :
    TellsOfFact (LeafFault.unknownFact name).message := by
  simp only [TellsOfFact, LeafFault.message, String.toList_append, List.append_assoc]
  exact List.prefix_append _ _

theorem tellsOfOperator_message (name : String) :
    TellsOfOperator (LeafFault.unknownOperator name).message := by
  simp only [TellsOfOperator, LeafFault.message, String.toList_append, List.append_assoc]
  exact List.prefix_append _ _

/-! ### What validation lists -/

namespace Registry

variable {r : Registry} {c : Condition} {l : Leaf}

theorem mem_gaps_facts (hl : l ∈ c.leaves) (missing : r.providesFact l.fact = false) :
    l.fact ∈ (r.gaps c).facts := by
  have used : l.fact ∈ c.factsUsed := List.mem_eraseDups.mpr (List.mem_map_of_mem hl)
  exact List.mem_mergeSort.mpr (List.mem_filter.mpr ⟨used, by simp [missing]⟩)

theorem mem_gaps_operators (hl : l ∈ c.leaves) (missing : r.providesOperator l.operator = false) :
    l.operator ∈ (r.gaps c).operators := by
  have used : l.operator ∈ c.operatorsUsed := List.mem_eraseDups.mpr (List.mem_map_of_mem hl)
  exact List.mem_mergeSort.mpr (List.mem_filter.mpr ⟨used, by simp [missing]⟩)

end Registry

namespace Command

variable {r : Registry} {rule : Rule} {c : Condition} {name : String}

theorem fact_mem_ruleLines (conditions : rule.conditions = some c)
    (listed : name ∈ (r.gaps c).facts) :
    "  Warning: " ++ ("unknown fact '" ++ name ++ "'") ∈ (ruleLines r rule).tail := by
  simp only [ruleLines, conditions, List.tail_cons]
  exact List.mem_map_of_mem (List.mem_append_left _ (List.mem_map_of_mem listed))

theorem operator_mem_ruleLines (conditions : rule.conditions = some c)
    (listed : name ∈ (r.gaps c).operators) :
    "  Warning: " ++ ("unknown operator '" ++ name ++ "'") ∈ (ruleLines r rule).tail := by
  simp only [ruleLines, conditions, List.tail_cons]
  exact List.mem_map_of_mem (List.mem_append_right _ (List.mem_map_of_mem listed))

end Command

/-! ### What a run comes upon -/

/-- **A gap is listed.**  A leaf of a walk that ends with the text of a gap names what is missing,
and the gaps of the condition list it. -/
theorem Condition.gap_listed {r : Registry} (own : r.IsOwn) {c : Condition} {ctx : Context}
    {path : List String} {run : Run} {result : LeafResult}
    (reported : result ∈ (c.evaluate ctx r path run).1) {error : String}
    (ended : result.error = some error) :
    (TellsOfFact error → error = (LeafFault.unknownFact result.fact).message ∧
      result.fact ∈ (r.gaps c).facts) ∧
    (TellsOfOperator error → error = (LeafFault.unknownOperator result.operator).message ∧
      result.operator ∈ (r.gaps c).operators) := by
  rw [evaluate_eq_visits] at reported
  obtain ⟨v, hv, rfl⟩ := List.mem_map.mp reported
  have hl : v.leaf ∈ c.leaves := by
    rw [← visits_leaves ctx r path false c run]
    exact List.mem_map_of_mem hv
  have fact : (v.reported ctx r).fact = v.leaf.fact := by
    rw [Visit.reported, LeafResult.invertedIf_eq]
    rfl
  have operator : (v.reported ctx r).operator = v.leaf.operator := by
    rw [Visit.reported, LeafResult.invertedIf_eq]
    rfl
  rw [Visit.reported, LeafResult.invertedIf_error, Visit.found_error] at ended
  obtain ⟨fault, found, rfl⟩ := Option.map_eq_some_iff.mp ended
  rw [fact, operator]
  -- a fault is a gap of either kind, or begins with no mark; no text begins with both marks
  rcases own.find_fault found with ⟨rfl, missing⟩ | ⟨rfl, missing⟩ | apart
  · refine ⟨fun _ => ⟨rfl, Registry.mem_gaps_facts hl missing⟩, fun tells => ?_⟩
    exact absurd tells (tellsOfFact_message v.leaf.fact).not_tellsOfOperator
  · refine ⟨fun tells => ?_, fun _ => ⟨rfl, Registry.mem_gaps_operators hl missing⟩⟩
    exact absurd (tellsOfOperator_message v.leaf.operator) tells.not_tellsOfOperator
  · exact ⟨fun tells => absurd tells apart.not_tellsOfFact,
      fun tells => absurd tells apart.not_tellsOfOperator⟩

namespace Inquiry

/-- The results of leaves come from a walk over the conditions of the rule. -/
theorem exists_walk_of_mem {q : Inquiry} {e : Engine} {rule : Rule} {result : LeafResult}
    (read : q.request.input.read = .ok rule) (reported : result ∈ (q.on e).1.leafResults) :
    ∃ c ctx, rule.conditions = some c ∧
      result ∈ (c.evaluate ctx e.setup.registry rootPath {}).1 := by
  rw [on_eq] at reported
  rcases e.snapshot.obstructed_or_walks q.request q.makeContext with
    ⟨o, obstructed⟩ | ⟨walked, c, ctx, h⟩
  · rw [obstructed] at reported
    cases reported
  · obtain rfl : walked = rule := Except.ok.inj (h.read.symm.trans read)
    refine ⟨c, ctx, h.conditions, ?_⟩
    rw [h.run_eq] at reported
    unfold Rule.decide at reported
    split at reported <;> exact reported

/-- **Gaps are foreseen.**  Whatever an engine with plugins of the library is asked for, a leaf that
ends with the text of an unknown fact or operator ends with the one that it names, and the
validation of the rule with the same plugins lists that name and warns of it.  So a rule that is
validated without a warning comes upon no gap. -/
theorem gaps_foreseen {enabled : Option (List String)} {r : Registry}
    (h : Registry.ofEnabled enabled = .ok r) {e : Engine} (same : e.setup.registry = r)
    (q : Inquiry) {rule : Rule} (read : q.request.input.read = .ok rule) :
    (∀ result ∈ (q.on e).1.leafResults, ∀ error, result.error = some error →
      (TellsOfFact error → error = (LeafFault.unknownFact result.fact).message ∧
        (∃ c, rule.conditions = some c ∧ result.fact ∈ (r.gaps c).facts) ∧
        "  Warning: " ++ ("unknown fact '" ++ result.fact ++ "'") ∈
          (Command.ruleLines r rule).tail) ∧
      (TellsOfOperator error → error = (LeafFault.unknownOperator result.operator).message ∧
        (∃ c, rule.conditions = some c ∧ result.operator ∈ (r.gaps c).operators) ∧
        "  Warning: " ++ ("unknown operator '" ++ result.operator ++ "'") ∈
          (Command.ruleLines r rule).tail)) ∧
    ((Command.ruleLines r rule).tail = [] →
      ∀ result ∈ (q.on e).1.leafResults, ∀ error, result.error = some error →
        ¬TellsOfFact error ∧ ¬TellsOfOperator error) := by
  have own : e.setup.registry.IsOwn := same ▸ Registry.isOwn_of_ofEnabled h
  subst same
  have listed {result : LeafResult} (reported : result ∈ (q.on e).1.leafResults) {error : String}
      (ended : result.error = some error) :
      ∃ c, rule.conditions = some c ∧
        (TellsOfFact error → error = (LeafFault.unknownFact result.fact).message ∧
          result.fact ∈ (e.setup.registry.gaps c).facts) ∧
        (TellsOfOperator error → error = (LeafFault.unknownOperator result.operator).message ∧
          result.operator ∈ (e.setup.registry.gaps c).operators) := by
    obtain ⟨c, ctx, conditions, walked⟩ := exists_walk_of_mem read reported
    exact ⟨c, conditions, Condition.gap_listed own walked ended⟩
  constructor
  · intro result reported error ended
    obtain ⟨c, conditions, ofFact, ofOperator⟩ := listed reported ended
    refine ⟨fun tells => ?_, fun tells => ?_⟩
    · obtain ⟨wording, gap⟩ := ofFact tells
      exact ⟨wording, ⟨c, conditions, gap⟩, Command.fact_mem_ruleLines conditions gap⟩
    · obtain ⟨wording, gap⟩ := ofOperator tells
      exact ⟨wording, ⟨c, conditions, gap⟩, Command.operator_mem_ruleLines conditions gap⟩
  · intro silent result reported error ended
    obtain ⟨c, conditions, ofFact, ofOperator⟩ := listed reported ended
    refine ⟨fun tells => ?_, fun tells => ?_⟩
    · have warned := Command.fact_mem_ruleLines conditions (ofFact tells).2
      rw [silent] at warned
      cases warned
    · have warned := Command.operator_mem_ruleLines conditions (ofOperator tells).2
      rw [silent] at warned
      cases warned

/-- A registry of the patterns only: it has no facts. -/
def patternsOnly : Registry where
  plugins := [("patterns", .patterns)]
  operators := Plugin.patterns.operators

/-- A rule that asks for matches in the target. -/
def analysisRule : Rule where
  name := "analysis"
  conditions := some
    (.all [.leaf { fact := "repoFileAnalysis", operator := "regexMatch", value := .text "x" }])
  event := ⟨.warning, "Rule fired", []⟩
  priority := none

/-- A fact that is not enabled: the run reports it, and validation had warned of it. -/
theorem gaps_foreseen_patternsOnly :
    let e := Engine.readyWith patternsOnly (.ofFiles [("a.txt", "x")])
    let q := Inquiry.file (.rule analysisRule) "a.txt" {}
    Registry.ofEnabled (some ["patterns"]) = .ok patternsOnly ∧
      ∃ result ∈ (q.on e).1.leafResults, ∃ error, result.error = some error ∧ TellsOfFact error ∧
        "  Warning: " ++ ("unknown fact '" ++ result.fact ++ "'") ∈
          (Command.ruleLines patternsOnly analysisRule).tail := by
  intro e q
  have enabled : Registry.ofEnabled (some ["patterns"]) = .ok patternsOnly := by rfl
  have read : q.request.input.read = .ok analysisRule := rfl
  have foreseen := (gaps_foreseen enabled (e := e) rfl q read).1
  have tells := tellsOfFact_message "repoFileAnalysis"
  refine ⟨enabled, _, List.mem_singleton_self _, _, rfl, tells, ?_⟩
  exact ((foreseen _ (List.mem_singleton_self _) _ rfl).1 tells).2.2

end Inquiry

end Verdict
