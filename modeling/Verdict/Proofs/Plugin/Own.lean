import Verdict.Plugin.Builtin
import Verdict.Proofs.Table

/-!
# Plugins: registries of the library's plugins

A registry of enabled plugins holds nothing but what the plugins of the library bring
(`isOwn_of_ofEnabled`).  There are three facts and three operators, and little of the context of a
run enters into what a fact answers.

* `covers_of_ofEnabled`: it has everything that the enabled plugins bring, under its own name
  (`IsOwn.fact_of_mem`, `IsOwn.operator_of_mem`).
* `IsOwn.calculate_of_options`: no fact asks for the options.
* `IsOwn.calculate_of_current`: all facts but those about the whole project, `projectFacts`, ask
  for the target only.
-/

namespace Verdict

namespace Plugin

/-- The facts of the plugins of the library, under their names. -/
def ownFacts : List (String × Fact) := ownPlugins.flatMap (·.facts)

/-- The operators of the plugins of the library, under their names. -/
def ownOperators : List (String × Operator) := ownPlugins.flatMap (·.operators)

/-- The facts about the whole project. -/
def projectFacts : List String := ["repoFilesystemFacts", "missingRequiredFiles"]

theorem mem_ownFacts {name : String} {f : Fact} (h : (name, f) ∈ ownFacts) :
    name = "repoFilesystemFacts" ∧ f.calculate = (fun _ ctx _ => filesystemFacts ctx) ∨
      name = "repoFileAnalysis" ∧ f.calculate = fileAnalysis ∨
      name = "missingRequiredFiles" ∧
        f.calculate = fun params ctx _ => missingRequiredFiles params ctx := by
  simp [ownFacts, ownPlugins, filesystem, patterns, ofLists, Table.ofPairs, Table.insertAll,
    Table.insert] at h
  rcases h with ⟨rfl, rfl⟩ | ⟨rfl, rfl⟩ | ⟨rfl, rfl⟩
  · exact .inl ⟨rfl, rfl⟩
  · exact .inr (.inl ⟨rfl, rfl⟩)
  · exact .inr (.inr ⟨rfl, rfl⟩)

theorem mem_ownOperators {name : String} {o : Operator} (h : (name, o) ∈ ownOperators) :
    o.evaluate = fileContains ∨ o.evaluate = hasMissingFiles ∨ o.evaluate = regexMatch := by
  simp [ownOperators, ownPlugins, filesystem, patterns, ofLists, Table.ofPairs, Table.insertAll,
    Table.insert] at h
  rcases h with ⟨-, rfl⟩ | ⟨-, rfl⟩ | ⟨-, rfl⟩
  · exact .inl rfl
  · exact .inr (.inl rfl)
  · exact .inr (.inr rfl)

/-- A plugin that is found by name is one of the library. -/
theorem mem_ownPlugins {name : String} {p : Plugin} (h : own? name = .ok p) :
    p ∈ ownPlugins := by
  unfold own? at h
  split at h
  · next found =>
      obtain rfl := Except.ok.inj h
      exact List.mem_of_find?_eq_some found
  · cases h

/-- What the matches in the target are does not depend on the rest of the context. -/
theorem fileAnalysis_of_current {ctx other : Context} (h : ctx.current = other.current)
    (params : Option (Table String Value)) (run : Run) :
    fileAnalysis params ctx run = fileAnalysis params other run := by
  simp only [fileAnalysis, Run.valueOf, h]

end Plugin

namespace Registry

/-- Whatever the registry provides comes from a plugin of the library. -/
structure IsOwn (r : Registry) : Prop where
  facts : ∀ name f, r.facts.get? name = some f → (name, f) ∈ Plugin.ownFacts
  operators : ∀ name o, r.operators.get? name = some o → (name, o) ∈ Plugin.ownOperators

theorem isOwn_empty : IsOwn {} where
  facts := nofun
  operators := nofun

theorem IsOwn.register {r r' : Registry} {p : Plugin} (own : r.IsOwn) (hp : p ∈ Plugin.ownPlugins)
    (registered : r.register p = .ok r') : r'.IsOwn := by
  unfold Registry.register at registered
  split at registered
  · cases registered
  · obtain rfl := Except.ok.inj registered
    constructor
    · intro name f provided
      rcases Table.get?_insertAll_cases _ provided with old | added
      · exact own.facts name f old
      · exact List.mem_flatMap.mpr ⟨p, hp, added⟩
    · intro name o provided
      rcases Table.get?_insertAll_cases _ provided with old | added
      · exact own.operators name o old
      · exact List.mem_flatMap.mpr ⟨p, hp, added⟩

/-- The first of some names is registered before the others. -/
theorem addOwn_cons_eq_ok {name : String} {rest : List String} {r r' : Registry} :
    r.addOwn (name :: rest) = .ok r' ↔ ∃ p between, Plugin.own? name = .ok p ∧
      r.register p = .ok between ∧ between.addOwn rest = .ok r' := by
  rw [addOwn]
  cases Plugin.own? name with
  | error fault => simp [bind, Except.bind]
  | ok p => cases registered : r.register p <;> simp [bind, Except.bind, registered]

theorem IsOwn.addOwn {names : List String} : ∀ {r r' : Registry}, r.IsOwn →
    r.addOwn names = .ok r' → r'.IsOwn := by
  induction names with
  | nil =>
      intro r r' own added
      obtain rfl := Except.ok.inj added
      exact own
  | cons name rest ih =>
      intro r r' own added
      obtain ⟨p, between, found, registered, added⟩ := addOwn_cons_eq_ok.mp added
      exact ih (own.register (Plugin.mem_ownPlugins found) registered) added

/-- **A registry of enabled plugins** provides what the plugins of the library bring. -/
theorem isOwn_of_ofEnabled {enabled : Option (List String)} {r : Registry}
    (h : ofEnabled enabled = .ok r) : r.IsOwn :=
  isOwn_empty.addOwn h

/-- Everything that a plugin brings is there under its name. -/
structure Covers (r : Registry) (p : Plugin) : Prop where
  facts : ∀ name ∈ p.facts.keys, r.facts.has name = true
  operators : ∀ name ∈ p.operators.keys, r.operators.has name = true

section Covers

variable {r r' : Registry} {p q : Plugin}

/-- A plugin that is registered is covered, and so are those that were before. -/
theorem covers_register (registered : r.register p = .ok r') :
    r'.Covers p ∧ (r.Covers q → r'.Covers q) := by
  unfold Registry.register at registered
  split at registered
  · cases registered
  · obtain rfl := Except.ok.inj registered
    exact ⟨⟨fun _ hn => Table.has_insertAll (.inr hn), fun _ hn => Table.has_insertAll (.inr hn)⟩,
      fun covers => ⟨fun name hn => Table.has_insertAll (.inl (covers.facts name hn)),
        fun name hn => Table.has_insertAll (.inl (covers.operators name hn))⟩⟩

theorem covers_addOwn {names : List String} : ∀ {r r' : Registry}, r.addOwn names = .ok r' →
    (∀ name ∈ names, ∀ p, Plugin.own? name = .ok p → r'.Covers p) ∧
      ∀ q, r.Covers q → r'.Covers q := by
  induction names with
  | nil =>
      intro r r' added
      obtain rfl := Except.ok.inj added
      exact ⟨nofun, fun _ => id⟩
  | cons name rest ih =>
      intro r r' added
      obtain ⟨p, between, found, registered, added⟩ := addOwn_cons_eq_ok.mp added
      obtain ⟨later, kept⟩ := ih added
      refine ⟨fun other among q own => ?_, fun q old =>
        kept q ((covers_register registered).2 old)⟩
      rcases List.mem_cons.mp among with rfl | among
      · obtain rfl : p = q := Except.ok.inj (found.symm.trans own)
        exact kept p (covers_register (q := p) registered).1
      · exact later other among q own

/-- **A registry of enabled plugins** has everything that they bring. -/
theorem covers_of_ofEnabled {enabled : Option (List String)} (h : ofEnabled enabled = .ok r)
    {name : String} (named : name ∈ enabled.getD (Plugin.ownPlugins.map (·.name)))
    (own : Plugin.own? name = .ok p) : r.Covers p :=
  (covers_addOwn h).1 name named p own

end Covers

namespace IsOwn

variable {r : Registry} {name : String} {f : Fact}

/-- A fact that a plugin brings is the one under its name, for no two plugins share a name. -/
theorem fact_of_mem (own : r.IsOwn) {p : Plugin} (hp : p ∈ Plugin.ownPlugins) (covers : r.Covers p)
    (brought : (name, f) ∈ p.facts) : r.facts.get? name = some f := by
  have distinct : (Table.keys Plugin.ownFacts).Nodup := by decide
  exact Table.get?_of_drawn distinct (own.facts name)
    (covers.facts name (List.mem_map_of_mem brought)) (List.mem_flatMap.mpr ⟨p, hp, brought⟩)

/-- An operator that a plugin brings is the one under its name. -/
theorem operator_of_mem (own : r.IsOwn) {p : Plugin} (hp : p ∈ Plugin.ownPlugins)
    (covers : r.Covers p) {o : Operator} (brought : (name, o) ∈ p.operators) :
    r.operators.get? name = some o := by
  have distinct : (Table.keys Plugin.ownOperators).Nodup := by decide
  exact Table.get?_of_drawn distinct (own.operators name)
    (covers.operators name (List.mem_map_of_mem brought)) (List.mem_flatMap.mpr ⟨p, hp, brought⟩)

/-- No fact of the library asks for the options of the run. -/
theorem calculate_of_options (own : r.IsOwn) (provided : r.facts.get? name = some f)
    (project : Project) (current : Descriptor) (options others : Option Options)
    (params : Option (Table String Value)) (run : Run) :
    f.calculate params ⟨project, current, options⟩ run =
      f.calculate params ⟨project, current, others⟩ run := by
  rcases Plugin.mem_ownFacts (own.facts name f provided) with ⟨-, h⟩ | ⟨-, h⟩ | ⟨-, h⟩
  · simp only [h, Plugin.filesystemFacts]
  · simp only [h]
    exact Plugin.fileAnalysis_of_current rfl params run
  · simp only [h, Plugin.missingRequiredFiles]

/-- A fact of the library that is not about the whole project asks for the target only. -/
theorem calculate_of_current (own : r.IsOwn) (provided : r.facts.get? name = some f)
    (narrow : name ∉ Plugin.projectFacts) {ctx other : Context}
    (target : ctx.current = other.current) (params : Option (Table String Value)) (run : Run) :
    f.calculate params ctx run = f.calculate params other run := by
  rcases Plugin.mem_ownFacts (own.facts name f provided) with ⟨rfl, -⟩ | ⟨-, h⟩ | ⟨rfl, -⟩
  · exact absurd (by decide) narrow
  · rw [h]
    exact Plugin.fileAnalysis_of_current target params run
  · exact absurd (by decide) narrow

end IsOwn

end Registry

end Verdict
