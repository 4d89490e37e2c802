import Verdict.Proofs.Plugin.Own
import Verdict.Proofs.Project.Overlay
import Verdict.Proofs.Simulation.Inquiry

/-!
# Simulation: searching a project

A pattern can be searched for in the whole project, by one run that is given all descriptors, or in
each file by a run of its own.

* `Snapshot.Walks.ending_of_found`: a rule with one condition ends as the finding for it says.
* `Registry.IsOwn.find_inProject`, `Registry.find_inTarget`: what is found in the project, and in
  the target.
* `Engine.simulateAll_eq`: the runs for all files are those for each file, in the order of the
  listing.
* `Engine.search_agrees`: so the pattern is found in the project exactly if it is in some file.
-/

namespace Verdict

/-- A search for a pattern: one condition on a fact, with nothing selected from its value. -/
structure Leaf.SearchesFor (l : Leaf) (fact operator source : String) : Prop where
  fact : l.fact = fact
  operator : l.operator = operator
  value : l.value = .text source
  selector : l.selector = none

/-- A rule whose only condition is such a search. -/
def RuleInput.SearchesFor (input : RuleInput) (fact operator source : String) : Prop :=
  ∃ rule l, input.read = .ok rule ∧ rule.conditions = some (.any [.leaf l]) ∧
    l.SearchesFor fact operator source

/-! ### Rules with one condition -/

/-- The path of the only condition. -/
def onlyPath : List String := rootPath ++ [NodeKind.any.key] ++ [toString 0]

/-- The only condition decides. -/
theorem Condition.isMet_only (l : Leaf) {result : LeafResult} (here : result.path = onlyPath) :
    (Condition.any [.leaf l]).isMet [result] = result.outcome := by
  have found : (outcomesByPath [result]).get? onlyPath = some result.outcome := by
    simp [outcomesByPath, Table.ofPairs, Table.insertAll, Table.insert, Table.get?, here]
  show (((outcomesByPath [result]).get? onlyPath).getD false || false) = _
  rw [found, Option.getD_some, Bool.or_false]

/-- A rule with one condition that was judged fires if the judgement says so. -/
theorem Snapshot.Walks.ending_of_found {s : Snapshot} {q : RunRequest} {make : MakeContext}
    {rule : Rule} {l : Leaf} {ctx : Context} (walks : s.Walks q make rule (.any [.leaf l]) ctx)
    {value : Value} {b : Bool} (found : (l.find ctx s.registry {}).1 = .judged value (.ok b)) :
    (s.run q make).1.ending = if b then .triggered else .notTriggered := by
  obtain ⟨result, reported⟩ : ∃ result, result = l.report onlyPath (.judged value (.ok b)) :=
    ⟨_, rfl⟩
  have walked : ((Condition.any [.leaf l]).evaluate ctx s.registry rootPath {}).1 = [result] := by
    rw [reported, ← found]
    rfl
  have sound : hasFaults [result] = false := by
    rw [reported]
    rfl
  have met : (Condition.any [.leaf l]).isMet [result] = b := by
    rw [Condition.isMet_only l (by rw [reported]; rfl), reported]
    rfl
  simp [walks.run_eq, walked, Rule.decide, sound, met]

/-! ### What is found -/

namespace Registry

variable {r : Registry} {l : Leaf} {source : String} {pattern : Pattern} {ctx : Context}

/-- An operator that a plugin brings answers for its name, unless the name is a usual one. -/
theorem apply_of_supplied {name : String} {o : Operator} {a b : Value} {answer : Bool}
    (free : Builtin.named? name = none) (supplied : r.operators.get? name = some o)
    (answers : o.evaluate a b = .ok (.bool answer)) : r.apply name a b = .ok answer := by
  simp only [apply, free, supplied, answers]
  rfl

theorem find_of_resolved {fact operator : String} (asks : l.SearchesFor fact operator source)
    {value : Value} {answer : Bool} (resolved : (r.resolve ctx fact l.params {}).1 = .ok value)
    (applied : r.apply operator value (.text source) = .ok answer) :
    (l.find ctx r {}).1 = .judged value (.ok answer) := by
  obtain ⟨rfl, rfl, operand, selector⟩ := asks
  cases resolves : r.resolve ctx l.fact l.params {} with
  | mk outcome after =>
      obtain rfl : outcome = .ok value := by rwa [resolves] at resolved
      simp only [Leaf.find, resolves, Leaf.judge, selector, operand, Value.select?, pure,
        Except.pure, applied]

/-- A text is read as the pattern that it writes. -/
theorem read_of_compile (valid : Pattern.compile source {} = .ok pattern) :
    Pattern.read source = .ok pattern := by
  rw [Pattern.read, valid]
  rfl

theorem fileContains_descriptors (valid : Pattern.compile source {} = .ok pattern)
    (ds : List Descriptor) :
    Plugin.fileContains (.list (ds.map (·.toValue))) (.text source) =
      .ok (.bool (ds.any fun d => pattern.occursIn d.content)) := by
  simp only [Plugin.fileContains, read_of_compile valid, Plugin.filesIn, List.any_map]
  rfl

theorem regexMatch_descriptor (valid : Pattern.compile source {} = .ok pattern) (d : Descriptor) :
    Plugin.regexMatch d.toValue (.text source) = .ok (.bool (pattern.occursIn d.content)) := by
  have content : Plugin.matchedText? d.toValue = some d.content := rfl
  simp only [Plugin.regexMatch, content, Pattern.ofValue, Pattern.written?, read_of_compile valid]
  rfl

/-- What is found in the project: some described file holds the pattern. -/
theorem IsOwn.find_inProject (own : r.IsOwn) (covers : r.Covers .filesystem)
    (asks : l.SearchesFor "repoFilesystemFacts" "fileContains" source)
    (valid : Pattern.compile source {} = .ok pattern) (ctx : Context) :
    (l.find ctx r {}).1 = .judged (.list (ctx.project.descriptors.map (·.toValue)))
      (.ok (ctx.project.descriptors.any fun d => pattern.occursIn d.content)) := by
  have mine : Plugin.filesystem ∈ Plugin.ownPlugins := List.mem_cons_self
  have provided : r.facts.get? "repoFilesystemFacts" = some _ :=
    own.fact_of_mem mine covers List.mem_cons_self
  have supplied : r.operators.get? "fileContains" = some _ :=
    own.operator_of_mem mine covers List.mem_cons_self
  have resolved : (r.resolve ctx "repoFilesystemFacts" l.params {}).1 =
      .ok (.list (ctx.project.descriptors.map (·.toValue))) := by
    simp only [resolve, provided]
    rfl
  exact find_of_resolved asks resolved
    (apply_of_supplied (by decide) supplied (fileContains_descriptors valid _))

/-- What is found in the target: its content holds the pattern. -/
theorem IsOwn.find_inTarget (own : r.IsOwn) (covers : r.Covers .patterns)
    (asks : l.SearchesFor targetFact "regexMatch" source)
    (valid : Pattern.compile source {} = .ok pattern) (ctx : Context) :
    (l.find ctx r {}).1 =
      .judged ctx.current.toValue (.ok (pattern.occursIn ctx.current.content)) := by
  have mine : Plugin.patterns ∈ Plugin.ownPlugins := List.mem_cons_of_mem _ List.mem_cons_self
  have supplied : r.operators.get? "regexMatch" = some _ :=
    own.operator_of_mem mine covers List.mem_cons_self
  exact find_of_resolved asks rfl
    (apply_of_supplied (by decide) supplied (regexMatch_descriptor valid _))

end Registry

namespace Engine

variable {e : Engine} {p : Project}

/-- Without patterns of files to be left out, all listed files are available. -/
theorem availableFiles_eq_listing (loaded : e.project = some p)
    (all : e.setup.config.fixtures.excluded = []) : e.availableFiles = p.listing := by
  rw [availableFiles, loaded, all]
  exact List.filter_eq_self.mpr fun _ _ => rfl

/-- **The runs for all files** are the run for each, once and in the order of the listing. -/
theorem simulateAll_eq (loaded : e.project = some p) (made : p.IsMade)
    (all : e.setup.config.fixtures.excluded = []) (input : RuleInput) (options : Options) :
    e.simulateAll input options =
      p.listing.map fun file => (file, (e.simulate input file options).1) := by
  have listed := made.isListed
  rw [simulateAll, runAll, availableFiles_eq_listing loaded all, List.map_map]
  refine Table.ofPairs_of_nodup ?_
  rw [Table.keys, List.map_map]
  show (p.listing.map id).Nodup
  rw [List.map_id, listed.listing]
  exact listed.distinct

/-- The engine is ready with a project of files, has all plugins of the library, and leaves out no
file. -/
structure Searches (e : Engine) (p : Project) : Prop where
  ready : e.ready = true
  loaded : e.project = some p
  made : p.IsMade
  plugins : ∃ enabled, Registry.ofEnabled enabled = .ok e.setup.registry ∧
    ∀ q ∈ Plugin.ownPlugins, q.name ∈ enabled.getD (Plugin.ownPlugins.map (·.name))
  all : e.setup.config.fixtures.excluded = []

namespace Searches

variable {source : String} {pattern : Pattern}

theorem covers (s : e.Searches p) :
    e.setup.registry.IsOwn ∧ e.setup.registry.Covers .filesystem ∧
      e.setup.registry.Covers .patterns := by
  obtain ⟨enabled, h, named⟩ := s.plugins
  have first : Plugin.filesystem ∈ Plugin.ownPlugins := List.mem_cons_self
  have second : Plugin.patterns ∈ Plugin.ownPlugins := List.mem_cons_of_mem _ List.mem_cons_self
  exact ⟨Registry.isOwn_of_ofEnabled h, Registry.covers_of_ofEnabled h (named _ first) rfl,
    Registry.covers_of_ofEnabled h (named _ second) rfl⟩

/-- How the run for the whole project ends. -/
theorem simulateGlobal_ending (s : e.Searches p) (valid : Pattern.compile source {} = .ok pattern)
    {input : RuleInput} (asks : input.SearchesFor "repoFilesystemFacts" "fileContains" source)
    (options : Options) :
    (e.simulateGlobal input [] options).1.ending =
      if p.listing.any fun file => pattern.occursIn (p.contentOf file) then .triggered
      else .notTriggered := by
  obtain ⟨rule, l, read, conditions, asks⟩ := asks
  obtain ⟨own, covers, -⟩ := s.covers
  have given : e.snapshot.project = some p := s.loaded
  have walks : e.snapshot.Walks
      { input, target := globalTarget, options, breakdown := "Global simulation failed" }
      usualContext rule (.any [.leaf l]) (.ofTarget p globalTarget (some options)) :=
    ⟨s.ready, read, conditions, p, by simp [Snapshot.projectFor, given], rfl⟩
  have found := own.find_inProject covers asks valid (.ofTarget p globalTarget (some options))
  rw [Project.descriptors, List.any_map] at found
  exact walks.ending_of_found found

/-- How the run for a file ends. -/
theorem simulate_ending (s : e.Searches p) (valid : Pattern.compile source {} = .ok pattern)
    {input : RuleInput} (asks : input.SearchesFor targetFact "regexMatch" source)
    (file : String) (options : Options) :
    (e.simulate input file options).1.ending =
      if pattern.occursIn (p.contentOf file) then .triggered else .notTriggered := by
  obtain ⟨rule, l, read, conditions, asks⟩ := asks
  obtain ⟨own, -, covers⟩ := s.covers
  have given : e.snapshot.project = some p := s.loaded
  have walks : e.snapshot.Walks { input, target := file, options } usualContext rule
      (.any [.leaf l]) (.ofTarget p file (some options)) :=
    ⟨s.ready, read, conditions, p, by simp [Snapshot.projectFor, given], rfl⟩
  exact walks.ending_of_found (own.find_inTarget covers asks valid _)

end Searches

/-- **A search of the project and a search of its files agree.**  For a pattern that can be read,
the rule that asks for it in some file of the project fires exactly if the rule that asks for it in
the target fires for some listed file.  The runs for all files are the run for each listed file,
once and in the order of the listing. -/
theorem search_agrees (s : e.Searches p) {source : String}
    (valid : ∃ pattern, Pattern.compile source {} = .ok pattern) {whole each : RuleInput}
    (inProject : whole.SearchesFor "repoFilesystemFacts" "fileContains" source)
    (inTarget : each.SearchesFor targetFact "regexMatch" source) (options options' : Options) :
    ((e.simulateGlobal whole [] options).1.ending = .triggered ↔
      ∃ file result, (file, result) ∈ e.simulateAll each options' ∧ result.ending = .triggered) ∧
    e.simulateAll each options' =
      p.listing.map (fun file => (file, (e.simulate each file options').1)) ∧
    p.listing.Nodup := by
  obtain ⟨pattern, valid⟩ := valid
  have runs := simulateAll_eq s.loaded s.made s.all each options'
  have fires (b : Bool) :
      (if b then Ending.triggered else .notTriggered) = .triggered ↔ b = true := by
    cases b <;> decide
  refine ⟨?_, runs, s.made.isListed.listing ▸ s.made.isListed.distinct⟩
  rw [s.simulateGlobal_ending valid inProject, fires, List.any_eq_true, runs]
  constructor
  · rintro ⟨file, listed, occurs⟩
    refine ⟨file, _, List.mem_map_of_mem listed, ?_⟩
    rw [s.simulate_ending valid inTarget, fires, occurs]
  · rintro ⟨file, result, among, triggered⟩
    obtain ⟨_, listed, same⟩ := List.mem_map.mp among
    obtain ⟨rfl, rfl⟩ := Prod.mk.inj same
    rw [s.simulate_ending valid inTarget, fires] at triggered
    exact ⟨_, listed, triggered⟩

/-- An engine that is ready with a project and leaves out no file. -/
def openWith (r : Registry) (p : Project) : Engine :=
  { readyWith r p with
    setup :=
      { config := { fixtures := { excluded := [] } }, registry := r
        load := fun _ => { outcome := .error .silent } } }

/-- A rule that searches for a letter, with a fact and an operator. -/
def letterRule (fact operator : String) : Rule where
  name := "search"
  conditions := some (.any [.leaf { fact, operator, value := .text "x" }])
  event := ⟨.warning, "Rule fired", []⟩
  priority := none

/-- A project of an empty file and one with the letter. -/
theorem search_agrees_letter :
    let whole := RuleInput.rule (letterRule "repoFilesystemFacts" "fileContains")
    let each := RuleInput.rule (letterRule targetFact "regexMatch")
    let p := Project.ofFiles [("a.txt", ""), ("b.txt", "x")]
    ∃ r, (openWith r p).Searches p ∧ (∃ pattern, Pattern.compile "x" {} = .ok pattern) ∧
      whole.SearchesFor "repoFilesystemFacts" "fileContains" "x" ∧
      each.SearchesFor targetFact "regexMatch" "x" ∧
      ((openWith r p).simulateGlobal whole).1.ending = .triggered ∧
      (openWith r p).simulateAll each =
        [("a.txt", ((openWith r p).simulate each "a.txt").1),
          ("b.txt", ((openWith r p).simulate each "b.txt").1)] := by
  intro whole each p
  obtain ⟨r, enabled⟩ : ∃ r, Registry.ofEnabled none = .ok r := ⟨_, rfl⟩
  have searches : (openWith r p).Searches p :=
    ⟨rfl, rfl, .ofFiles .., ⟨none, enabled, fun q hq => List.mem_map_of_mem hq⟩, rfl⟩
  obtain ⟨pattern, compiled, occurs⟩ :
      ∃ pattern, Pattern.compile "x" {} = .ok pattern ∧ pattern.occursIn "x" = true :=
    ⟨_, rfl, by decide⟩
  have inProject : whole.SearchesFor "repoFilesystemFacts" "fileContains" "x" :=
    ⟨_, _, rfl, rfl, rfl, rfl, rfl, rfl⟩
  have inTarget : each.SearchesFor targetFact "regexMatch" "x" :=
    ⟨_, _, rfl, rfl, rfl, rfl, rfl, rfl⟩
  obtain ⟨agree, runs, -⟩ :=
    search_agrees searches ⟨pattern, compiled⟩ inProject inTarget {} {}
  have second : ((openWith r p).simulate each "b.txt").1.ending = .triggered := by
    rw [searches.simulate_ending compiled inTarget]
    exact if_pos occurs
  refine ⟨r, searches, ⟨pattern, compiled⟩, inProject, inTarget,
    agree.mpr ⟨"b.txt", _, ?_, second⟩, runs⟩
  rw [runs]
  exact List.mem_cons_of_mem _ List.mem_cons_self

end Engine

end Verdict
