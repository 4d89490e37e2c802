import Verdict.Plugin.Registry
import Verdict.Proofs.Evaluation.Cache
import Verdict.Proofs.Evaluation.Fault
import Verdict.Proofs.Plugin.Own

/-!
# Plugins: what failures say

Gaps are reported by their texts, which begin with a mark of their own.  No failure of the library's
own facts and operators begins like that, whatever it quotes further on (`IsOwn.calculate_apart`,
`IsOwn.evaluate_apart`).  So in a registry of the library's plugins a text that begins with a mark
comes from a gap (`IsOwn.find_fault`), and what is missing is what the leaf names.
-/

namespace Verdict

/-- The text begins, and with another letter than the marks of gaps. -/
def Apart (text : String) : Prop := text.toList.head?.any (· != 'U') = true

theorem Apart.ofList {c : Char} {rest : List Char} (h : c ≠ 'U') :
    Apart (String.ofList (c :: rest)) := by
  simp [Apart, h]

theorem Apart.exists_cons {text : String} (h : Apart text) :
    ∃ c rest, text.toList = c :: rest ∧ c ≠ 'U' := by
  unfold Apart at h
  cases begun : text.toList with
  | nil => simp [begun] at h
  | cons c rest => exact ⟨c, rest, rfl, by simpa [begun] using h⟩

theorem Apart.append {text : String} (h : Apart text) (more : String) : Apart (text ++ more) := by
  obtain ⟨c, rest, begun, other⟩ := h.exists_cons
  simp [Apart, begun, other]

theorem Apart.ofList_append {c : Char} {rest : List Char} (h : c ≠ 'U') (more : String) :
    Apart (String.ofList (c :: rest) ++ more) :=
  (Apart.ofList h).append more

/-- No mark of gaps is at the front of such a text. -/
theorem Apart.not_prefix {text mark : String} (h : Apart text)
    (marked : mark.toList.head? = some 'U') : ¬mark.toList <+: text.toList := by
  rintro ⟨rest, whole⟩
  obtain ⟨c, more, begun, other⟩ := h.exists_cons
  obtain ⟨tail, marked⟩ := List.head?_eq_some_iff.mp marked
  rw [begun, marked] at whole
  exact other (List.cons.inj whole).1.symm

/-! ### The failures of the library -/

theorem Failure.apart_text {label message : String} (h : Apart message) :
    Apart (Failure.text ⟨label, message⟩) := by
  have begun : message.isEmpty = false := by
    obtain ⟨c, rest, chars, -⟩ := h.exists_cons
    simp [String.isEmpty_eq_false_iff, ← String.toList_inj, chars]
  rwa [Failure.text, begun]

theorem Number.IntegerFault.apart_message (fault : Number.IntegerFault) : Apart fault.message := by
  cases fault with
  | malformed base text => exact ((Apart.ofList_append (by decide) _).append _).append _
  | tooManyDigits count => exact (((Apart.ofList_append (by decide) _).append _).append _).append _

namespace Pattern

theorem Defect.apart_message (d : Defect) : Apart d.message := by
  cases d with
  | tooManyDigits count => exact Number.IntegerFault.apart_message _
  | badEscape | incompleteEscape | missingName | undefinedCharacter | invalidGroup | badGroupName
  | unknownGroupName | unknownExtension | templateRepeat => exact Apart.ofList_append (by decide) _
  | octalOutOfRange | unterminatedName => exact (Apart.ofList_append (by decide) _).append _
  | badRange => exact ((Apart.ofList_append (by decide) _).append _).append _
  | groupRedefined =>
      exact ((((Apart.ofList_append (by decide) _).append _).append _).append _).append _
  | _ => exact .ofList (by decide)

theorem Fault.apart_message (fault : Fault) (source : String) : Apart (fault.message source) := by
  have apart := fault.defect.apart_message
  unfold Fault.message
  split
  · exact apart
  · dsimp only
    split
    · exact (((((((apart.append _).append _).append _).append _).append _).append _).append _)
    · exact (apart.append _).append _

end Pattern

namespace Failure

theorem apart_badPattern (source : String) (fault : Pattern.Fault) :
    Apart (badPattern source fault).text := by
  have apart := fault.apart_message source
  unfold badPattern
  dsimp only
  split <;> exact apart_text apart

theorem apart_noPart (v : Value) (part : String) : Apart (noPart v part).text :=
  apart_text ((((Apart.ofList_append (by decide) _).append _).append _).append _)

end Failure

theorem Value.toInteger_apart {v : Value} {failure : Failure}
    (h : v.toInteger = .error failure) : Apart failure.text := by
  unfold Value.toInteger at h
  split at h
  · cases h
  · cases h
  · split at h
    · cases h
    · split at h
      · obtain rfl := Except.error.inj h
        exact Failure.apart_text (.ofList (by decide))
      · obtain rfl := Except.error.inj h
        exact Failure.apart_text (.ofList (by decide))
  · next s =>
      cases read : Number.readInteger s with
      | ok n => simp [read, Except.mapError] at h
      | error fault =>
          simp only [read, Except.mapError, Except.error.injEq] at h
          exact h ▸ Failure.apart_text fault.apart_message
  · obtain rfl := Except.error.inj h
    exact Failure.apart_text ((Apart.ofList_append (by decide) _).append _)

namespace Plugin

theorem contentIn_apart {descriptor : Value} {failure : Failure}
    (h : contentIn descriptor = .error failure) : Apart failure.text := by
  unfold contentIn at h
  split at h
  · cases h
  · split at h
    · cases h
    · obtain rfl := Except.error.inj h
      exact Failure.apart_noPart _ _

/-- A text that is no pattern is passed over, or its failure is that of a pattern. -/
theorem readPatterns_apart {failure : Failure} : ∀ {sources : List String},
    (readPatterns sources).2.2 = some failure → Apart failure.text := by
  intro sources
  induction sources with
  | nil => nofun
  | cons source rest ih =>
      intro h
      unfold readPatterns at h
      split at h
      · exact ih h
      · next fault _ =>
          split at h
          · exact ih h
          · obtain rfl := Option.some.inj h
            exact Failure.apart_badPattern source fault

theorem analyse_apart {sources : List String} {length : Int} {content : Value}
    {failure : Failure} (h : (analyse sources length content).1 = .error failure) :
    Apart failure.text := by
  unfold analyse at h
  split at h
  · cases h
  · have apart := @readPatterns_apart failure sources
    generalize readPatterns sources = patterns at apart h
    obtain ⟨ps, warnings, failed⟩ := patterns
    cases failed with
    | some failed =>
        obtain rfl := Except.error.inj h
        exact apart rfl
    | none =>
        dsimp only at h
        split at h
        · exact absurd ‹none = some _› nofun
        · cases h
        · obtain rfl := Except.error.inj h
          exact Failure.apart_noPart _ _

theorem fileAnalysis_apart {params : Option (Table String Value)} {ctx : Context} {run : Run}
    {failure : Failure} (h : (fileAnalysis params ctx run).outcome = .error failure) :
    Apart failure.text := by
  unfold fileAnalysis at h
  cases length : ((param? params "contextLength").getD (.int defaultSnippetLength)).toInteger with
  | error fault =>
      simp only [length, bind, Except.bind, Except.error.injEq] at h
      exact h ▸ Value.toInteger_apart length
  | ok n =>
      cases content : contentIn (run.valueOf ctx targetFact) with
      | error fault =>
          simp only [length, content, bind, Except.bind, Except.error.injEq] at h
          exact h ▸ contentIn_apart content
      | ok content' =>
          simp only [length, content, bind, Except.bind, pure, Except.pure] at h
          split at h
          · next analysed =>
              obtain rfl := Except.error.inj h
              exact analyse_apart (congrArg Prod.fst analysed)
          · cases h

theorem read_apart {source : String} {flags : Pattern.Flags} {failure : Failure}
    (h : Pattern.read source flags = .error failure) : Apart failure.text := by
  unfold Pattern.read at h
  cases compiled : Pattern.compile source flags with
  | ok p => simp [compiled, Except.mapError] at h
  | error fault =>
      simp only [compiled, Except.mapError, Except.error.injEq] at h
      exact h ▸ Failure.apart_badPattern source fault

theorem fileContains_apart {a b : Value} {failure : Failure}
    (h : fileContains a b = .error failure) : Apart failure.text := by
  unfold fileContains at h
  split at h
  · next source =>
      cases read : Pattern.read source with
      | ok p => simp [read, bind, Except.bind, pure, Except.pure] at h
      | error fault =>
          simp only [read, bind, Except.bind, Except.error.injEq] at h
          exact h ▸ read_apart read
  · cases h

theorem regexMatch_apart {a b : Value} {failure : Failure}
    (h : regexMatch a b = .error failure) : Apart failure.text := by
  unfold regexMatch Pattern.ofValue at h
  split at h
  · cases h
  · split at h
    · next source flags _ =>
        cases read : Pattern.read source flags with
        | ok p => simp [read, bind, Except.bind, pure, Except.pure, Functor.map, Except.map] at h
        | error fault =>
            simp only [read, bind, Except.bind, Functor.map, Except.map, Except.error.injEq] at h
            exact h ▸ read_apart read
    · simp [bind, Except.bind, pure, Except.pure] at h

end Plugin

/-! ### Registries of the library's plugins -/

namespace Registry.IsOwn

variable {r : Registry} {name : String} {fault : LeafFault}

theorem calculate_apart (own : r.IsOwn) {f : Fact} (provided : r.facts.get? name = some f)
    {params : Option (Table String Value)} {ctx : Context} {run : Run} {failure : Failure}
    (h : (f.calculate params ctx run).outcome = .error failure) : Apart failure.text := by
  rcases Plugin.mem_ownFacts (own.facts name f provided) with
    ⟨-, same⟩ | ⟨-, same⟩ | ⟨-, same⟩ <;> rw [same] at h
  · cases h
  · exact Plugin.fileAnalysis_apart h
  · cases h

theorem evaluate_apart (own : r.IsOwn) {o : Operator} (provided : r.operators.get? name = some o)
    {a b : Value} {failure : Failure} (h : o.evaluate a b = .error failure) :
    Apart failure.text := by
  rcases Plugin.mem_ownOperators (own.operators name o provided) with same | same | same <;>
    rw [same] at h
  · exact Plugin.fileContains_apart h
  · cases h
  · exact Plugin.regexMatch_apart h

/-- A fact that is not answered is not provided, or says something else. -/
theorem resolve_fault (own : r.IsOwn) {params : Option (Table String Value)} {ctx : Context}
    {run : Run} (h : (r.resolve ctx name params run).1 = .error fault) :
    fault = .unknownFact name ∧ r.providesFact name = false ∨ Apart fault.message := by
  unfold Registry.resolve at h
  split at h
  · cases h
  · split at h
    · cases h
    · next other =>
        split at h
        · next missing =>
            obtain rfl := Except.error.inj h
            exact .inl ⟨rfl, by simp [providesFact, other, Table.has, missing]⟩
        · next f provided =>
            rw [Fact.run_answer] at h
            cases outcome : (f.calculate params ctx run).outcome with
            | ok v => simp [outcome, Except.mapError] at h
            | error failure =>
                simp only [outcome, Except.mapError, Except.error.injEq] at h
                exact .inr (h ▸ own.calculate_apart provided outcome)

/-- An operator that does not answer is not provided, or says something else. -/
theorem apply_fault (own : r.IsOwn) {a b : Value} (h : r.apply name a b = .error fault) :
    fault = .unknownOperator name ∧ r.providesOperator name = false ∨ Apart fault.message := by
  unfold Registry.apply at h
  split at h
  · cases h
  · next notBuiltin =>
      split at h
      · next missing =>
          obtain rfl := Except.error.inj h
          refine .inl ⟨rfl, ?_⟩
          simp [providesOperator, isBuiltinOperator, notBuiltin, Table.has, missing]
      · next o provided =>
          split at h
          · cases h
          · next failed =>
              obtain rfl := Except.error.inj h
              exact .inr (own.evaluate_apart provided failed)

/-- **The faults of a leaf** are gaps in what it names, or say something else than that. -/
theorem find_fault (own : r.IsOwn) {l : Leaf} {ctx : Context} {run : Run}
    (h : (l.find ctx r run).1.fault? = some fault) :
    fault = .unknownFact l.fact ∧ r.providesFact l.fact = false ∨
      fault = .unknownOperator l.operator ∧ r.providesOperator l.operator = false ∨
        Apart fault.message := by
  rw [Leaf.find_fst] at h
  split at h
  · next v _ =>
      unfold Leaf.judge at h
      split at h
      · next unreadable _ =>
          obtain rfl := Option.some.inj h
          exact .inr (.inr unreadable.apart_message)
      · next part _ =>
          cases judged : r.apply l.operator part l.value with
          | ok b => simp [judged, Leaf.Finding.fault?] at h
          | error other =>
              simp only [judged, Leaf.Finding.fault?, Option.some.injEq] at h
              exact .inr (own.apply_fault (h ▸ judged))
  · next resolved =>
      obtain rfl := Option.some.inj h
      exact (own.resolve_fault resolved).imp_right .inr

end Registry.IsOwn

end Verdict
