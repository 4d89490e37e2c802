import Verdict.Proofs.Evaluation.Cache

/-!
# Evaluation: facts asked for one after another

A run is asked for facts one after another, with any names and params.  A fact is given the state of
the run, which knows the calculations made so far, so it may fail at one time and answer at another,
and answer differently each time.

* `Resolved`: what a question can come to, if facts publish nothing.
* `Recalls`: what a run knows of the questions put so far.  A further question keeps this
  (`Recalls.ask`), and so it holds before every question and after the last one (`recalls_ask`).
* `asked_discipline`: a fact is calculated at every question up to the first that it answers, and
  from then on the run gives that answer; it knows the facts that were answered so, and no others.
-/

namespace Verdict

/-- A fact asked for in a run. -/
structure Question where
  name : String
  params : Option (Table String Value) := none

/-- A question with the state of the run to which it is put. -/
structure Asked where
  question : Question
  before : Run

namespace Registry

/-- No fact of the registry publishes anything. -/
def PublishesNothing (r : Registry) : Prop :=
  ∀ name f, r.facts.get? name = some f → ∀ params ctx run,
    (f.calculate params ctx run).published = []

/-- What a question comes to: the answer, and the state of the run after it. -/
def answer (r : Registry) (ctx : Context) (q : Question) (run : Run) :
    Except LeafFault Value × Run :=
  r.resolve ctx q.name q.params run

/-- The questions put to a run one after another, and the state of the run at the end. -/
def ask (r : Registry) (ctx : Context) : List Question → Run → List Asked × Run
  | [], run => ([], run)
  | q :: rest, run =>
    let (others, after) := ask r ctx rest (r.answer ctx q run).2
    (⟨q, run⟩ :: others, after)

end Registry

namespace Asked

/-- What the question came to. -/
def outcome (a : Asked) (r : Registry) (ctx : Context) : Except LeafFault Value × Run :=
  r.answer ctx a.question a.before

/-- The question was for the fact, and was answered with the value. -/
def Gives (a : Asked) (r : Registry) (ctx : Context) (name : String) (v : Value) : Prop :=
  a.question.name = name ∧ (a.outcome r ctx).1 = .ok v

end Asked

section Discipline

variable {r : Registry} {ctx : Context} {q : Question} {run : Run}

/-! ### What a question comes to -/

/-- What a question can come to where facts publish nothing. -/
inductive Resolved (r : Registry) (ctx : Context) (q : Question) (run : Run) :
    Except LeafFault Value × Run → Prop
  | recalled {v : Value} (known : run.cache.get? q.name = some v) :
    Resolved r ctx q run (.ok v, run)
  | target (unknown : run.cache.get? q.name = none) (named : q.name = targetFact) :
    Resolved r ctx q run (.ok ctx.current.toValue, run)
  | missing (unknown : run.cache.get? q.name = none) (other : q.name ≠ targetFact)
    (absent : r.facts.get? q.name = none) :
    Resolved r ctx q run (.error (.unknownFact q.name), run)
  | failed {f : Fact} {fault : LeafFault} {after : Run} (unknown : run.cache.get? q.name = none)
    (other : q.name ≠ targetFact) (provided : r.facts.get? q.name = some f)
    (calculated : f.run q.name q.params ctx run = (.error fault, after))
    (cache : after.cache = run.cache) : Resolved r ctx q run (.error fault, after)
  | learned {f : Fact} {v : Value} {after : Run} (unknown : run.cache.get? q.name = none)
    (other : q.name ≠ targetFact) (provided : r.facts.get? q.name = some f)
    (calculated : f.run q.name q.params ctx run = (.ok v, after))
    (cache : after.cache = run.cache.insert q.name v) : Resolved r ctx q run (.ok v, after)

/-- A calculation that publishes nothing is noted once. -/
theorem Fact.run_calculated {f : Fact} {params : Option (Table String Value)}
    (name : String) (silent : (f.calculate params ctx run).published = []) :
    (f.run name params ctx run).2.calculated = run.calculated ++ [name] := by
  cases h : (f.calculate params ctx run).outcome <;>
    simp [Fact.run, h, silent, Run.learn, Run.warn]

theorem Registry.PublishesNothing.resolved (silent : r.PublishesNothing) (ctx : Context)
    (q : Question) (run : Run) : Resolved r ctx q run (r.answer ctx q run) := by
  unfold Registry.answer Registry.resolve
  split
  · next v known => exact .recalled known
  · next unknown =>
      split
      · next named => exact .target unknown named
      · next other =>
          split
          · next absent => exact .missing unknown other absent
          · next f provided =>
              have cache := Fact.run_cache q.name (silent _ f provided q.params ctx run)
              cases calculated : f.run q.name q.params ctx run with
              | mk answer after =>
                  rw [calculated] at cache
                  cases answer with
                  | ok v => exact .learned unknown other provided calculated cache
                  | error fault => exact .failed unknown other provided calculated cache

/-- The run gives the value for the fact without a calculation. -/
def Run.Has (run : Run) (ctx : Context) (name : String) (v : Value) : Prop :=
  run.cache.get? name = some v ∨
    run.cache.get? name = none ∧ name = targetFact ∧ v = ctx.current.toValue

theorem Run.Has.answer {v : Value} (h : run.Has ctx q.name v) :
    r.answer ctx q run = (.ok v, run) := by
  rcases h with known | ⟨unknown, named, rfl⟩
  · exact Registry.resolve_of_kept q.params known
  · rw [Registry.answer, named]
    exact Registry.resolve_target q.params (named ▸ unknown)

theorem Resolved.has {v : Value} {after : Run} (h : Resolved r ctx q run (.ok v, after)) :
    after.Has ctx q.name v := by
  cases h with
  | recalled known => exact .inl known
  | target unknown named => exact .inr ⟨unknown, named, rfl⟩
  | learned _ _ _ _ cache => exact .inl (cache ▸ Table.get?_insert_self _ _ _)

/-- What a run gives without a calculation it gives after any further question. -/
theorem Run.Has.kept {name : String} {v : Value} {result : Except LeafFault Value × Run}
    (h : run.Has ctx name v) (resolved : Resolved r ctx q run result) :
    result.2.Has ctx name v := by
  cases resolved with
  | recalled | target | missing => exact h
  | failed _ _ _ _ cache =>
      unfold Run.Has
      rw [cache]
      exact h
  | learned unknown other _ _ cache =>
      have apart : q.name ≠ name := by
        rintro rfl
        rcases h with known | ⟨-, named, -⟩
        · cases unknown.symm.trans known
        · exact other named
      unfold Run.Has
      rw [cache, Table.get?_insert_of_ne _ _ apart]
      exact h

/-- A question makes known the fact that it names, if a plugin provides the fact and it was
answered. -/
theorem Resolved.knows_iff {result : Except LeafFault Value × Run}
    (resolved : Resolved r ctx q run result) (name : String) :
    result.2.knows name = true ↔ run.knows name = true ∨
      name ≠ targetFact ∧ (r.facts.get? name).isSome = true ∧ q.name = name ∧
        ∃ v, result.1 = .ok v := by
  unfold Run.knows Table.has
  cases resolved with
  | recalled known =>
      refine ⟨.inl, ?_⟩
      rintro (before | ⟨-, -, rfl, -⟩)
      · exact before
      · simp [known]
  | target unknown named =>
      refine ⟨.inl, ?_⟩
      rintro (before | ⟨other, -, rfl, -⟩)
      · exact before
      · exact absurd named other
  | missing unknown other absent =>
      refine ⟨.inl, ?_⟩
      rintro (before | ⟨-, provided, rfl, -⟩)
      · exact before
      · simp [absent] at provided
  | failed _ _ _ _ cache => simp [cache]
  | learned unknown other provided _ cache =>
      rw [cache]
      by_cases same : q.name = name
      · subst same
        simp [Table.get?_insert_self, other, provided]
      · simp [Table.get?_insert_of_ne _ _ same, same]

/-! ### What a run recalls -/

/-- What a run recalls of the questions put so far: it knows the facts that a plugin provides and
that were answered, but not the target, and it gives every answer again. -/
structure Recalls (r : Registry) (ctx : Context) (done : List Asked) (run : Run) : Prop where
  known : ∀ name, run.knows name = true ↔ name ≠ targetFact ∧ (r.facts.get? name).isSome = true ∧
    ∃ a ∈ done, ∃ v, a.Gives r ctx name v
  gives : ∀ a ∈ done, ∀ name v, a.Gives r ctx name v → run.Has ctx name v

theorem recalls_fresh (r : Registry) (ctx : Context) {run : Run} (fresh : run.cache = []) :
    Recalls r ctx [] run where
  known name := by simp [Run.knows, Table.has, fresh]
  gives a ha := by simp at ha

/-- **One more question**: the run recalls it as well. -/
theorem Recalls.ask {done : List Asked} (recalls : Recalls r ctx done run)
    (silent : r.PublishesNothing) (q : Question) :
    Recalls r ctx (done ++ [⟨q, run⟩]) (r.answer ctx q run).2 := by
  have resolved := silent.resolved ctx q run
  constructor
  · intro name
    have more : (∃ a ∈ done ++ [⟨q, run⟩], ∃ v, a.Gives r ctx name v) ↔
        (∃ a ∈ done, ∃ v, a.Gives r ctx name v) ∨
          q.name = name ∧ ∃ v, (r.answer ctx q run).1 = .ok v := by
      simp [or_and_right, exists_or, Asked.Gives, Asked.outcome]
    rw [more, resolved.knows_iff, recalls.known, ← and_or_left, ← and_or_left]
  · intro a ha name v gives
    rcases List.mem_append.mp ha with before | here
    · exact (recalls.gives a before name v gives).kept resolved
    · obtain rfl := List.mem_singleton.mp here
      obtain ⟨rfl, ok⟩ := gives
      rw [← Prod.eta (r.answer ctx q run)] at resolved ⊢
      rw [show (r.answer ctx q run).1 = .ok v from ok] at resolved
      exact resolved.has

/-- A run recalls the questions put before every question, and all of them at the end. -/
theorem recalls_ask (silent : r.PublishesNothing) : ∀ (questions : List Question)
    {done : List Asked} {run : Run}, Recalls r ctx done run →
    Recalls r ctx (done ++ (r.ask ctx questions run).1) (r.ask ctx questions run).2 ∧
      ∀ i a, (r.ask ctx questions run).1[i]? = some a →
        Recalls r ctx (done ++ (r.ask ctx questions run).1.take i) a.before
  | [], _, _, recalls => ⟨by simpa [Registry.ask] using recalls, fun i a h => nomatch h⟩
  | q :: rest, done, run, recalls => by
      obtain ⟨atEnd, each⟩ := recalls_ask silent rest (recalls.ask silent q)
      rw [← List.append_cons] at atEnd
      refine ⟨atEnd, fun i a h => ?_⟩
      cases i with
      | zero =>
          obtain rfl := Option.some.inj h
          simpa using recalls
      | succ i =>
          have later := each i a h
          rwa [← List.append_cons] at later

theorem ask_questions : ∀ (questions : List Question) (run : Run),
    (r.ask ctx questions run).1.map (·.question) = questions
  | [], _ => rfl
  | q :: rest, _ => congrArg (q :: ·) (ask_questions rest _)

/-- **Facts asked for one after another.**  Whatever the facts answer or fail with, the run knows in
the end those that a plugin provides and that were answered, but not the target.  A fact that was
answered before gives the same answer again, without a calculation; one that was not is calculated;
the target and a fact that no plugin provides never are. -/
theorem asked_discipline (r : Registry) (silent : r.PublishesNothing) (ctx : Context)
    (questions : List Question) (run : Run) (fresh : run.cache = []) :
    let asked := (r.ask ctx questions run).1
    asked.map (·.question) = questions ∧
      (∀ name, (r.ask ctx questions run).2.knows name = true ↔
        name ≠ targetFact ∧ (r.facts.get? name).isSome = true ∧
          ∃ a ∈ asked, ∃ v, a.Gives r ctx name v) ∧
      ∀ i a, asked[i]? = some a →
        (∀ e ∈ asked.take i, ∀ v, e.Gives r ctx a.question.name v →
          a.outcome r ctx = (.ok v, a.before)) ∧
        ((∀ e ∈ asked.take i, ∀ v, ¬e.Gives r ctx a.question.name v) →
          a.question.name ≠ targetFact → ∀ f, r.facts.get? a.question.name = some f →
            a.outcome r ctx = f.run a.question.name a.question.params ctx a.before ∧
              (a.outcome r ctx).2.calculated = a.before.calculated ++ [a.question.name]) ∧
        (a.question.name = targetFact ∨ r.facts.get? a.question.name = none →
          (a.outcome r ctx).2 = a.before) := by
  intro asked
  obtain ⟨atEnd, each⟩ := recalls_ask silent questions (recalls_fresh r ctx fresh)
  refine ⟨ask_questions questions run, atEnd.known, fun i a h => ?_⟩
  have recalls := each i a h
  have resolved := silent.resolved ctx a.question a.before
  rw [List.nil_append] at recalls
  refine ⟨fun e he v gives => (recalls.gives e he _ v gives).answer, ?_, ?_⟩
  · intro unanswered other f provided
    have unknown : a.before.cache.get? a.question.name = none := by
      rw [← Option.not_isSome_iff_eq_none]
      intro known
      obtain ⟨-, -, e, he, v, gives⟩ := (recalls.known _).mp known
      exact unanswered e he v gives
    have calculated : a.outcome r ctx = f.run a.question.name a.question.params ctx a.before := by
      simp only [Asked.outcome, Registry.answer, Registry.resolve, unknown, provided]
      rw [if_neg other]
    refine ⟨calculated, ?_⟩
    rw [calculated]
    exact Fact.run_calculated _ (silent _ f provided _ ctx a.before)
  · intro uncalculated
    rw [Asked.outcome]
    generalize r.answer ctx a.question a.before = result at resolved ⊢
    cases resolved with
    | recalled | target | missing => rfl
    | failed _ other provided | learned _ other provided =>
        rcases uncalculated with named | absent
        · exact absurd named other
        · cases provided.symm.trans absent

end Discipline

/-! ### A fact that fails at first -/

/-- The registry of a fact that fails until something was calculated, and then answers with
null. -/
def Registry.flaky : Registry where
  facts := [("flaky",
    { name := "flaky"
      calculate := fun _ _ run =>
        { outcome :=
            if run.calculated = [] then .error ⟨"RuntimeError", "not yet"⟩ else .ok .null } })]
  operators := []

theorem Registry.flaky_publishesNothing : flaky.PublishesNothing := by
  intro name f hf
  simp only [flaky, Table.get?] at hf
  split at hf
  · cases hf
    exact fun _ _ _ => rfl
  · cases hf

/-- Of three questions for the fact the first is not answered, and the third is answered from the
cache. -/
theorem asked_discipline_flaky :
    let ctx := Context.ofTarget (.ofFiles [("a.txt", "")]) "a.txt"
    let questions := List.replicate 3 (Question.mk "flaky" none)
    let (asked, after) := Registry.flaky.ask ctx questions {}
    Registry.flaky.PublishesNothing ∧ ({} : Run).cache = [] ∧ after.knows "flaky" = true ∧
      asked.map (fun a => (a.before.calculated, (a.outcome .flaky ctx).1.isOk)) =
        [([], false), (["flaky"], true), (["flaky", "flaky"], true)] ∧
      ∃ a, asked[2]? = some a ∧ a.outcome .flaky ctx = (.ok .null, a.before) := by
  intro ctx questions
  obtain ⟨-, known, each⟩ :=
    asked_discipline .flaky Registry.flaky_publishesNothing ctx questions {} rfl
  have second : (⟨⟨"flaky", none⟩, { calculated := ["flaky"] }⟩ : Asked).Gives .flaky ctx "flaky"
      .null := ⟨rfl, rfl⟩
  refine ⟨Registry.flaky_publishesNothing, rfl, ?_, rfl, _, rfl, ?_⟩
  · exact (known "flaky").mpr ⟨by decide, rfl, _, .tail _ (.head _), _, second⟩
  · exact (each 2 _ rfl).1 _ (.tail _ (.head _)) _ second

end Verdict
