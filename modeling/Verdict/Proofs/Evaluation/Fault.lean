import Mathlib.Logic.Basic
import Verdict.Proofs.Evaluation.Visit
import Verdict.Proofs.Text.Quoted

/-!
# Evaluation: faults

A leaf ends with a fault because it names something that nothing provides, a gap, or because
something failed: its fact, its selector or its operator.  Only the text of the fault is reported,
and gaps are told from failures by what the text contains.

* `isGap_message`: the text of a gap is taken for that of a gap, the text of a failed selector never
  is, and what a failed fact or operator says is if it contains one of the marks of gaps.
* `hasFaults_evaluate`: the errors of a walk put the decision in doubt exactly if a leaf below an
  even number of negations ended with an error and some failure is evident, that is, its text is not
  taken for that of a gap.
-/

namespace Verdict

namespace LeafFault

/-- Something failed, as opposed to a name that nothing provides. -/
def isFailure : LeafFault → Bool
  | .unknownFact _ | .unknownOperator _ => false
  | .factFailed .. | .operatorFailed .. | .selectorFailed _ => true

/-- Something failed, and does not say that something is unknown. -/
def isEvident : LeafFault → Bool
  | .unknownFact _ | .unknownOperator _ => false
  | .factFailed _ failure | .operatorFailed _ failure => !isGap failure.text
  | .selectorFailed _ => true

theorem isFailure_of_isEvident {f : LeafFault} (h : f.isEvident = true) : f.isFailure = true := by
  cases f with
  | unknownFact | unknownOperator => exact h
  | factFailed | operatorFailed | selectorFailed => rfl

end LeafFault

namespace Visit

variable (v : Visit) (ctx : Context) (r : Registry)

/-- The fault of the leaf where the walk comes to it. -/
def fault? : Option LeafFault := (v.leaf.find ctx r v.before).1.fault?

/-- The leaf ended with an error, the fault of which is of a kind. -/
def errsBy (kind : LeafFault → Bool) : Bool :=
  (v.found ctx r).isErrored && (v.fault? ctx r).any kind

end Visit

/-! ### The faults in which the parts of a leaf can end -/

theorem Fact.run_fault {f : Fact} {name : String} {params : Option (Table String Value)}
    {ctx : Context} {run : Run} {fault : LeafFault}
    (h : (f.run name params ctx run).1 = .error fault) :
    ∃ failure, fault = .factFailed name failure := by
  rw [Fact.run] at h
  split at h
  · cases h
  · exact ⟨_, (Except.error.inj h).symm⟩

theorem Registry.resolve_fault {r : Registry} {ctx : Context} {name : String}
    {params : Option (Table String Value)} {run : Run} {fault : LeafFault}
    (h : (r.resolve ctx name params run).1 = .error fault) :
    fault = .unknownFact name ∨ ∃ failure, fault = .factFailed name failure := by
  unfold Registry.resolve at h
  split at h
  · cases h
  · split at h
    · cases h
    · split at h
      · exact .inl (Except.error.inj h).symm
      · exact .inr (Fact.run_fault h)

theorem Registry.apply_fault {r : Registry} {name : String} {a b : Value} {fault : LeafFault}
    (h : r.apply name a b = .error fault) :
    fault = .unknownOperator name ∨ ∃ failure, fault = .operatorFailed name failure := by
  unfold Registry.apply at h
  split at h
  · cases h
  · split at h
    · exact .inl (Except.error.inj h).symm
    · split at h
      · cases h
      · exact .inr ⟨_, (Except.error.inj h).symm⟩

namespace Value

variable {token : String} {fault : Number.IntegerFault}

theorem itemAt_fault {items : List Value} (h : itemAt items token = .error fault) :
    isPosition token = true ∧ Number.readInteger token = .error fault := by
  unfold itemAt at h
  split at h
  · next position =>
      cases read : Number.readInteger token with
      | error e => simpa [position, read, bind, Except.bind] using h
      | ok n => simp [read, bind, Except.bind, pure, Except.pure] at h
  · simp [pure, Except.pure] at h

theorem step_fault {v : Value} (h : v.step token = .error fault) :
    isPosition token = true ∧ Number.readInteger token = .error fault := by
  cases v with
  | list items | tuple items => exact itemAt_fault h
  | _ => simp [step, pure, Except.pure] at h

theorem walk_fault : ∀ {tokens : List String} {v : Value}, v.walk tokens = .error fault →
    ∃ token, isPosition token = true ∧ Number.readInteger token = .error fault
  | [], _, h => by simp [walk, pure, Except.pure] at h
  | token :: rest, v, h => by
      cases part : v.step token with
      | error e =>
          simp only [walk, part, bind, Except.bind, Except.error.injEq] at h
          exact ⟨token, h ▸ step_fault part⟩
      | ok part =>
          simp only [walk, *, bind, Except.bind] at h
          exact walk_fault h

theorem select?_fault {v : Value} {selector : Option String}
    (h : v.select? selector = .error fault) :
    ∃ token, isPosition token = true ∧ Number.readInteger token = .error fault := by
  cases selector with
  | none => cases h
  | some selector => exact walk_fault h

end Value

theorem Number.readInteger_fault {s : String} {fault : Number.IntegerFault}
    (h : Number.readInteger s = .error fault) :
    fault = .malformed 10 s ∨ ∃ count, fault = .tooManyDigits count := by
  simp only [Number.readInteger] at h
  split at h
  · exact .inl (Except.error.inj h).symm
  · split at h
    · exact .inr ⟨_, (Except.error.inj h).symm⟩
    · split at h
      · exact .inl (Except.error.inj h).symm
      · cases h

/-- A leaf whose selector failed had a value that the selector could not be walked in. -/
theorem Leaf.select?_of_selectorFailed {l : Leaf} {ctx : Context} {r : Registry} {run : Run}
    {fault : Number.IntegerFault}
    (h : (l.find ctx r run).1.fault? = some (.selectorFailed fault)) :
    ∃ v : Value, v.select? l.selector = .error fault := by
  unfold Leaf.find at h
  split at h
  · next v _ _ =>
      refine ⟨v, ?_⟩
      unfold Leaf.judge at h
      split at h
      · next selected =>
          simp only [Leaf.Finding.fault?, Option.some.injEq, LeafFault.selectorFailed.injEq] at h
          exact h ▸ selected
      · next part _ =>
          cases judged : r.apply l.operator part l.value with
          | ok b => simp [judged, Leaf.Finding.fault?] at h
          | error other =>
              simp only [judged, Leaf.Finding.fault?, Option.some.injEq] at h
              rcases Registry.apply_fault judged with rfl | ⟨failure, rfl⟩ <;> cases h
  · next other _ resolved =>
      simp only [Leaf.Finding.fault?, Option.some.injEq] at h
      rcases Registry.resolve_fault (congrArg Prod.fst resolved) with rfl | ⟨failure, rfl⟩ <;>
        cases h

/-! ### Which texts are taken for those of gaps -/

theorem isGap_unknownFact (name : String) : isGap (LeafFault.unknownFact name).message = true := by
  have marked : Text.contains (LeafFault.unknownFact name).message LeafFault.unknownFactMark := by
    refine Text.contains_iff.mpr ⟨[], ?_⟩
    simp only [LeafFault.message, String.toList_append, List.append_assoc, List.nil_append]
    exact ⟨_, rfl⟩
  simp [isGap, marked]

theorem isGap_unknownOperator (name : String) :
    isGap (LeafFault.unknownOperator name).message = true := by
  have marked :
      Text.contains (LeafFault.unknownOperator name).message LeafFault.unknownOperatorMark := by
    refine Text.contains_iff.mpr ⟨[], ?_⟩
    simp only [LeafFault.message, String.toList_append, List.append_assoc, List.nil_append]
    exact ⟨_, rfl⟩
  simp [isGap, marked]

/-- Both marks have a letter that is missing in the message about a text that is no integer, unless
the text itself has it. -/
theorem isGap_eq_false_of_notMem {s : String} (h : 'k' ∉ s.toList) : isGap s = false := by
  have fact : 'k' ∈ LeafFault.unknownFactMark.toList := by decide
  have operator : 'k' ∈ LeafFault.unknownOperatorMark.toList := by decide
  simp [isGap, Text.contains_eq_false_of_notMem fact h,
    Text.contains_eq_false_of_notMem operator h]

theorem notMem_append {c : Char} {a b : String} (ha : c ∉ a.toList) (hb : c ∉ b.toList) :
    c ∉ (a ++ b).toList := by
  rw [String.toList_append, List.mem_append]
  exact not_or.mpr ⟨ha, hb⟩

theorem notMem_repr (n : Nat) : 'k' ∉ (toString n).toList := by
  rw [Nat.toString_eq_ofList_toDigits, String.toList_ofList]
  intro h
  exact absurd (Nat.isDigit_of_mem_toDigits (by decide) (by decide) h) (by decide)

/-- The message of a failed selector quotes a token of digits, or gives numbers. -/
theorem notMem_message_of_select? {v : Value} {selector : Option String}
    {fault : Number.IntegerFault} (h : v.select? selector = .error fault) :
    'k' ∉ fault.message.toList := by
  obtain ⟨token, position, read⟩ := Value.select?_fault h
  rcases Number.readInteger_fault read with rfl | ⟨count, rfl⟩
  · have digits : ∀ c ∈ token.toList, Text.isDigit c = true :=
      List.all_eq_true.mp ((Bool.and_eq_true _ _).mp position).2
    have inToken : 'k' ∉ token.toList := fun hk => absurd (digits 'k' hk) (by decide)
    have inQuotation : 'k' ∉ (Text.quoted token).toList := fun hk =>
      (Text.mem_quoted hk).elim inToken (by decide)
    have cut : 'k' ∉ (String.ofList ((Text.quoted token).toList.take 200)).toList := by
      rw [String.toList_ofList]
      exact fun hk => inQuotation (List.mem_of_mem_take hk)
    exact notMem_append (notMem_append (notMem_append (by simp) (notMem_repr 10)) (by simp)) cut
  · refine notMem_append (notMem_append (notMem_append (notMem_append ?_ (notMem_repr _)) ?_)
      (notMem_repr count)) ?_ <;> simp

/-- **Which faults are taken for gaps**: those that are, and the failures of facts and operators
that say so. -/
theorem isGap_message {l : Leaf} {ctx : Context} {r : Registry} {run : Run} {fault : LeafFault}
    (h : (l.find ctx r run).1.fault? = some fault) : isGap fault.message = !fault.isEvident := by
  cases fault with
  | unknownFact name => exact isGap_unknownFact name
  | unknownOperator name => exact isGap_unknownOperator name
  | factFailed name failure | operatorFailed name failure =>
      simp [LeafFault.message, LeafFault.isEvident]
  | selectorFailed fault =>
      obtain ⟨v, selected⟩ := Leaf.select?_of_selectorFailed h
      exact isGap_eq_false_of_notMem (notMem_message_of_select? selected)

/-! ### Faults of a walk -/

namespace Visit

variable {v : Visit} {ctx : Context} {r : Registry}

theorem errsBy_mono {kind other : LeafFault → Bool}
    (h : ∀ fault, kind fault = true → other fault = true) (errs : v.errsBy ctx r kind = true) :
    v.errsBy ctx r other = true := by
  simp only [errsBy, Bool.and_eq_true, Option.any_eq_true] at errs ⊢
  obtain ⟨errored, fault, found, hk⟩ := errs
  exact ⟨errored, fault, found, h fault hk⟩

theorem found_error : (v.found ctx r).error = (v.fault? ctx r).map LeafFault.message := rfl

theorem found_outcome : (v.found ctx r).outcome = (v.leaf.find ctx r v.before).1.outcome := rfl

theorem found_outcome_of_fault {fault : LeafFault} (h : v.fault? ctx r = some fault) :
    (v.found ctx r).outcome = false := by
  rw [found_outcome]
  rw [fault?] at h
  cases found : (v.leaf.find ctx r v.before).1 with
  | unresolved => rfl
  | judged value answer =>
      cases answer with
      | error => rfl
      | ok b => simp [found, Leaf.Finding.fault?] at h

@[simp] theorem reported_isErrored : (v.reported ctx r).isErrored = (v.found ctx r).isErrored := by
  simp [reported, LeafResult.isErrored]

/-- An errored leaf is reported with the outcome false exactly below an even number of
negations. -/
theorem reported_outcome_of_isErrored (h : (v.found ctx r).isErrored = true) :
    (v.reported ctx r).outcome = v.negated := by
  obtain ⟨fault, hf⟩ : ∃ fault, v.fault? ctx r = some fault := by
    cases hf : v.fault? ctx r with
    | some fault => exact ⟨fault, rfl⟩
    | none => simp [LeafResult.isErrored, found_error, hf] at h
  simp [reported, found_outcome_of_fault hf]

/-- An errored leaf is taken for a gap exactly if its fault is no evident failure. -/
theorem any_isGap (h : (v.found ctx r).isErrored = true) :
    (v.found ctx r).error.any isGap = !(v.fault? ctx r).any LeafFault.isEvident := by
  cases hf : v.fault? ctx r with
  | some fault => simpa [found_error, hf] using isGap_message hf
  | none => simp [LeafResult.isErrored, found_error, hf] at h

end Visit

theorem hasFaults_iff {results : List LeafResult} :
    hasFaults results = true ↔
      (∃ result ∈ results, result.isErrored = true ∧ result.outcome = false) ∧
        ∃ result ∈ results, result.isErrored = true ∧ result.error.any isGap = false := by
  simp only [hasFaults, Bool.and_eq_true, List.any_eq_true, List.mem_filter, Bool.not_eq_true',
    List.all_eq_false, Bool.not_eq_true, and_assoc]

/-- **Faults of a walk.**  The decision is in doubt exactly if a leaf below an even number of
negations ended with an error, and some leaf ended with an error that is an evident failure. -/
theorem hasFaults_evaluate (c : Condition) (ctx : Context) (r : Registry) (path : List String)
    (run : Run) :
    hasFaults (c.evaluate ctx r path run).1 = true ↔
      (∃ v ∈ c.visits ctx r path false run,
        v.negated = false ∧ (v.found ctx r).isErrored = true) ∧
      ∃ v ∈ c.visits ctx r path false run, v.errsBy ctx r LeafFault.isEvident = true := by
  rw [hasFaults_iff, Condition.evaluate_eq_visits]
  simp only [List.mem_map, exists_exists_and_eq_and, Visit.reported_isErrored, Visit.errsBy,
    Bool.and_eq_true]
  refine and_congr (exists_congr fun v => and_congr_right fun _ => ?_)
    (exists_congr fun v => and_congr_right fun _ => and_congr_right fun errored => ?_)
  · rw [and_comm]
    exact and_congr_left fun errored => by rw [Visit.reported_outcome_of_isErrored errored]
  · simp [Visit.reported, Visit.any_isGap errored]

end Verdict
