import Verdict.Proofs.Simulation.History
import Verdict.Proofs.Simulation.Shared

/-!
# Simulation: runs among others

Runs wait for their facts and operators, and meanwhile other runs go on, the engine is made ready,
and it is reset.  A run has taken all it needs from the engine when it waits for the first time;
after that it works in its memory only.

* `Scene`: an engine with its runs.  A `Deed` is what happens to it next.
* `Lives`: where a run works.  Its turns leave the engine and the other memories (`Lives.turn`).
* `Scene.Holds`: a run has a memory to itself.  Among others it is as it would be alone, after as
  many turns (`Holds.after`).
* `run_isolated`: a run comes to what it would have come to alone, from the engine as it was at the
  first turn, and leaves the engine as it is.
-/

namespace Verdict

/-! ### Scenes -/

/-- An engine with its runs, which are known by their positions. -/
structure Scene where
  shared : Shared
  runs : List (Course Shared RunResult) := []

/-- What happens next. -/
inductive Deed where
  /-- The engine is moved: it is made ready, bit by bit, or reset, which may give it another
  registry. -/
  | meets (o : Occasion)
  /-- A run is asked for; its first turn comes later. -/
  | asks (q : Inquiry) (m : Manner)
  /-- A run goes on to its next wait. -/
  | turn (run : Nat)

/-- The deed is a turn of the run. -/
def Deed.isTurn (run : Nat) : Deed → Bool
  | .turn other => other == run
  | _ => false

theorem Deed.isTurn_iff {run : Nat} {d : Deed} : d.isTurn run = true ↔ d = .turn run := by
  cases d <;> simp [isTurn]

/-- The course of a run that is asked for. -/
def Inquiry.course (q : Inquiry) (m : Manner) : Course Shared RunResult :=
  m.run q.request q.makeContext

namespace Scene

/-- An engine without runs. -/
def start (e : Engine) : Scene := { shared := { engine := e } }

/-- The engine is changed. -/
def setEngine (w : Scene) (e : Engine) : Scene := { w with shared := { w.shared with engine := e } }

/-- A run goes on. -/
def goOn (w : Scene) (run : Nat) : Scene :=
  match w.runs[run]? with
  | none => w
  | some c => { shared := (c.turn w.shared).2, runs := w.runs.set run (c.turn w.shared).1 }

/-- What a deed does. -/
def meet (w : Scene) : Deed → Scene
  | .meets o => w.setEngine (w.shared.engine.meet o)
  | .asks q m => { w with runs := w.runs ++ [q.course m] }
  | .turn run => w.goOn run

/-- What deeds do one after another. -/
def after (w : Scene) (deeds : List Deed) : Scene := deeds.foldl meet w

/-- What a run has come to. -/
def result? (w : Scene) (run : Nat) : Option RunResult := w.runs[run]?.bind Course.result?

variable {w : Scene} {i a : Nat}

@[simp] theorem after_nil : w.after [] = w := rfl

@[simp] theorem after_cons (d : Deed) (rest : List Deed) :
    w.after (d :: rest) = (w.meet d).after rest := rfl

theorem after_append (first rest : List Deed) :
    w.after (first ++ rest) = (w.after first).after rest := List.foldl_append

end Scene

/-! ### Where runs work -/

/-- The engine is as it was, and so are the memories that are not allowed. -/
structure Shared.Spared (s : Shared) (allowed : Nat → Prop) (s' : Shared) : Prop where
  engine : s'.engine = s.engine
  longer : s.memories.length ≤ s'.memories.length
  memory : ∀ a < s.memories.length, ¬ allowed a → s'.memory a = s.memory a

theorem Shared.Spared.refl (s : Shared) (allowed : Nat → Prop) : s.Spared allowed s :=
  ⟨rfl, Nat.le_refl _, fun _ _ _ => rfl⟩

/-- A run works nowhere yet, or nowhere any more, or in a memory among those that are allowed. -/
inductive Lives (allowed : Nat → Prop) : Course Shared RunResult → Prop where
  | asked (q : Inquiry) (m : Manner) : Lives allowed (q.course m)
  | ended (r : RunResult) : Lives allowed (.done r)
  | within {a : Nat} (c : Course Run RunResult) (own : allowed a) : Lives allowed (c.within a)

namespace Lives

variable {allowed more : Nat → Prop} {c : Course Shared RunResult} {s : Shared}

theorem mono (sub : ∀ a, allowed a → more a) (h : Lives allowed c) : Lives more c := by
  cases h with
  | asked q m => exact .asked q m
  | ended r => exact .ended r
  | within c own => exact .within c (sub _ own)

/-- **A turn of a run** spares the engine and the memories in which the run does not live, and ends
in the same memory or in a new one. -/
theorem turn (h : Lives allowed c) (there : ∀ a, allowed a → a < s.memories.length) :
    s.Spared allowed (c.turn s).2 ∧
      Lives (fun a => allowed a ∨ s.memories.length ≤ a ∧ a < (c.turn s).2.memories.length)
        (c.turn s).1 := by
  cases h with
  | asked q m =>
      rcases m.turn_run q.request q.makeContext s with obstructed | ⟨c, -, begun⟩
      · rw [Inquiry.course, obstructed]
        exact ⟨.refl s allowed, .ended _⟩
      · have here : s.memories.length < s.allot.memories.length := by simp
        rw [Inquiry.course, begun, Course.turn_within c here]
        refine ⟨⟨rfl, by simp, fun a old _ => ?_⟩, .within _ (.inr (by simp))⟩
        rw [s.allot.memory_put_ne (Nat.ne_of_gt old), s.memory_allot_old old]
  | ended r => exact ⟨.refl s allowed, .ended r⟩
  | @within b c own =>
      rw [Course.turn_within c (there b own)]
      refine ⟨⟨rfl, by simp, fun a _ other => ?_⟩, .within _ (.inl own)⟩
      exact s.memory_put_ne (by rintro rfl; exact other own) _

end Lives

namespace Scene

variable {w : Scene} {i a : Nat}

theorem goOn_of_none (h : w.runs[i]? = none) : w.goOn i = w := by
  simp only [goOn, h]

theorem goOn_of_some {c : Course Shared RunResult} (h : w.runs[i]? = some c) :
    w.goOn i = { shared := (c.turn w.shared).2, runs := w.runs.set i (c.turn w.shared).1 } := by
  simp only [goOn, h]

/-- Every run works in a memory that is there. -/
def Settled (w : Scene) : Prop := ∀ c ∈ w.runs, Lives (· < w.shared.memories.length) c

theorem Settled.goOn (h : w.Settled) (i : Nat) : (w.goOn i).Settled ∧
    (w.goOn i).shared.engine = w.shared.engine := by
  cases found : w.runs[i]? with
  | none =>
      rw [goOn_of_none found]
      exact ⟨h, rfl⟩
  | some c =>
      obtain ⟨spared, lives⟩ :=
        (h c (List.mem_of_getElem? found)).turn (s := w.shared) fun a ha => ha
      rw [goOn_of_some found]
      refine ⟨fun c' hc' => ?_, spared.engine⟩
      rcases List.mem_or_eq_of_mem_set hc' with old | rfl
      · exact (h c' old).mono fun a ha => Nat.lt_of_lt_of_le ha spared.longer
      · refine lives.mono fun a ha => ?_
        rcases ha with ha | ha
        · exact Nat.lt_of_lt_of_le ha spared.longer
        · exact ha.2

theorem Settled.meet (h : w.Settled) (d : Deed) : (w.meet d).Settled := by
  cases d with
  | meets o => exact h
  | asks q m =>
      intro c hc
      rcases List.mem_append.mp hc with old | new
      · exact h c old
      · rw [List.mem_singleton.mp new]
        exact .asked q m
  | turn i => exact (h.goOn i).1

theorem settled_after (e : Engine) (deeds : List Deed) : ((start e).after deeds).Settled := by
  induction deeds using List.reverseRecOn with
  | nil => exact nofun
  | append_singleton deeds d ih =>
      rw [after_append]
      exact ih.meet d

/-! ### A run among others -/

/-- Only its own turns change a run. -/
theorem runs_meet {c : Course Shared RunResult} (found : w.runs[i]? = some c) {d : Deed}
    (other : d.isTurn i = false) : (w.meet d).runs[i]? = some c := by
  cases d with
  | meets o => exact found
  | asks q m =>
      exact (List.getElem?_append_left (List.getElem?_eq_some_iff.mp found).1).trans found
  | turn j =>
      have hji : j ≠ i := by simpa [Deed.isTurn] using other
      cases foundj : w.runs[j]? with
      | none => rw [Scene.meet, goOn_of_none foundj, found]
      | some c' =>
          rw [Scene.meet, goOn_of_some foundj]
          exact (List.getElem?_set_ne hji).trans found

/-- A run that is done stays so. -/
theorem done_meet {r : RunResult} (found : w.runs[i]? = some (.done r)) (d : Deed) :
    (w.meet d).runs[i]? = some (.done r) := by
  cases own : d.isTurn i with
  | false => exact runs_meet found own
  | true =>
      obtain rfl := Deed.isTurn_iff.mp own
      rw [Scene.meet, goOn_of_some found]
      exact List.getElem?_set_self (List.getElem?_eq_some_iff.mp found).1

/-- **A run has a memory to itself**: it is there with this course, the memory holds this state, and
no other run works in it. -/
structure Holds (w : Scene) (i a : Nat) (c : Course Run RunResult) (run : Run) : Prop where
  there : a < w.shared.memories.length
  own : w.runs[i]? = some (c.within a)
  memory : w.shared.memory a = run
  others : ∀ j c, j ≠ i → w.runs[j]? = some c →
    Lives (fun b => b < w.shared.memories.length ∧ b ≠ a) c

variable {c : Course Run RunResult} {run : Run}

/-- Its turns are those of its course alone. -/
theorem Holds.turn (h : w.Holds i a c run) :
    (w.meet (.turn i)).Holds i a (c.turn run).1 (c.turn run).2 := by
  have hi : i < w.runs.length := (List.getElem?_eq_some_iff.mp h.own).1
  rw [Scene.meet, goOn_of_some h.own, Course.turn_within c h.there, h.memory]
  refine ⟨by simpa using h.there, List.getElem?_set_self hi, w.shared.memory_put_self h.there _,
    fun j c' hj found => ?_⟩
  rw [List.getElem?_set_ne hj.symm] at found
  simpa using h.others j c' hj found

/-- Whatever else happens, it is as it was. -/
theorem Holds.other (h : w.Holds i a c run) {d : Deed} (other : d.isTurn i = false) :
    (w.meet d).Holds i a c run := by
  have own := runs_meet h.own other
  cases d with
  | meets o => exact ⟨h.there, own, h.memory, h.others⟩
  | asks q m =>
      refine ⟨h.there, own, h.memory, fun j c' hj found => ?_⟩
      rcases Nat.lt_or_ge j w.runs.length with old | new
      · exact h.others j c' hj ((List.getElem?_append_left old).symm.trans found)
      · have added := List.mem_of_getElem? ((List.getElem?_append_right new).symm.trans found)
        rw [List.mem_singleton.mp added]
        exact .asked q m
  | turn j =>
      have hji : j ≠ i := by simpa [Deed.isTurn] using other
      cases foundj : w.runs[j]? with
      | none =>
          rw [Scene.meet, goOn_of_none foundj]
          exact h
      | some c' =>
          obtain ⟨spared, lives⟩ :=
            (h.others j c' hji foundj).turn (s := w.shared) fun b hb => hb.1
          have longer := spared.longer
          have kept := spared.memory a h.there fun hb => hb.2 rfl
          rw [Scene.meet, goOn_of_some foundj] at own ⊢
          refine ⟨Nat.lt_of_lt_of_le h.there longer, own, kept.trans h.memory,
            fun k c'' hk found => ?_⟩
          by_cases hkj : k = j
          · subst hkj
            rw [List.getElem?_set_self (List.getElem?_eq_some_iff.mp foundj).1] at found
            rw [← Option.some.inj found]
            have there := h.there
            refine lives.mono fun b hb => ?_
            rcases hb with ⟨hb, other⟩ | hb
            · exact ⟨Nat.lt_of_lt_of_le hb longer, other⟩
            · -- a memory that is taken now is none of those that were there
              exact ⟨hb.2, by omega⟩
          · rw [List.getElem?_set_ne (Ne.symm hkj)] at found
            exact (h.others k c'' hk found).mono fun b hb => ⟨Nat.lt_of_lt_of_le hb.1 longer, hb.2⟩

/-- **A run among others is as it would be alone** after as many turns. -/
theorem Holds.after (h : w.Holds i a c run) (deeds : List Deed) :
    let k := deeds.countP (Deed.isTurn i)
    (w.after deeds).Holds i a (c.turns k run).1 (c.turns k run).2 := by
  induction deeds generalizing w c run with
  | nil => exact h
  | cons d rest ih =>
      cases own : d.isTurn i with
      | true =>
          obtain rfl := Deed.isTurn_iff.mp own
          simpa [List.countP_cons, own, Course.turns] using ih h.turn
      | false => simpa [List.countP_cons, own] using ih (h.other own)

/-- The first turn. -/
theorem Settled.begins {q : Inquiry} {m : Manner} (h : w.Settled)
    (asked : w.runs[i]? = some (q.course m)) :
    (w.meet (.turn i)).runs[i]? = some (.done (q.on w.shared.engine).1) ∨
      ∃ c : Course Run RunResult, c.alone {} = q.on w.shared.engine ∧
        (w.meet (.turn i)).Holds i w.shared.memories.length (c.turn {}).1 (c.turn {}).2 := by
  have hi : i < w.runs.length := (List.getElem?_eq_some_iff.mp asked).1
  rw [Scene.meet, goOn_of_some asked, q.on_eq]
  rcases m.turn_run q.request q.makeContext w.shared with obstructed | ⟨c, alone, begun⟩
  · rw [Inquiry.course, obstructed]
    exact .inl (List.getElem?_set_self hi)
  · have here : w.shared.memories.length < w.shared.allot.memories.length := by simp
    rw [Inquiry.course, begun, Course.turn_within c here, w.shared.memory_allot_self]
    refine .inr ⟨c, alone, by simp, List.getElem?_set_self hi,
      w.shared.allot.memory_put_self here _, fun j c' hj found => ?_⟩
    rw [List.getElem?_set_ne hj.symm] at found
    refine (h c' (List.mem_of_getElem? found)).mono fun b hb => ?_
    exact ⟨by simpa using Nat.lt_succ_of_lt hb, Nat.ne_of_lt hb⟩

/-- What a run with a memory to itself has come to. -/
theorem Holds.result? (h : w.Holds i a c run) : w.result? i = c.result? := by
  rw [Scene.result?, h.own, Option.bind_some]
  cases c <;> rfl

theorem done_after {r : RunResult} (found : w.runs[i]? = some (.done r)) (deeds : List Deed) :
    (w.after deeds).result? i = some r := by
  induction deeds generalizing w with
  | nil => rw [after_nil, Scene.result?, found]; rfl
  | cons d rest ih => exact ih (done_meet found d)

/-- A run that is asked for and has not begun. -/
theorem asked_after {q : Inquiry} {m : Manner} {deeds : List Deed}
    (unbegun : ∀ d ∈ deeds, d ≠ .turn w.runs.length) :
    ((w.meet (.asks q m)).after deeds).runs[w.runs.length]? = some (q.course m) := by
  have kept (v : Scene) (found : v.runs[w.runs.length]? = some (q.course m)) :
      (v.after deeds).runs[w.runs.length]? = some (q.course m) := by
    induction deeds generalizing v with
    | nil => exact found
    | cons d rest ih =>
        refine ih (fun d hd => unbegun d (List.mem_cons_of_mem _ hd)) _ (runs_meet found ?_)
        rw [Bool.eq_false_iff]
        exact mt Deed.isTurn_iff.mp (unbegun d List.mem_cons_self)
  exact kept _ (by simp [Scene.meet])

/-- **Runs are isolated.**  A run is asked for, begins when it gets its first turn, and goes on
among other runs, calls, tasks and resets.  It comes to the answer of the engine as it was at the
first turn, which is what the run comes to alone, and it comes to it if it gets turns enough.  It
leaves the engine as it is. -/
theorem run_isolated (e : Engine) (before between : List Deed) (q : Inquiry) (m : Manner)
    (unbegun : ∀ d ∈ between, d ≠ .turn ((start e).after before).runs.length) :
    let i := ((start e).after before).runs.length
    let w := (((start e).after before).meet (.asks q m)).after between
    let answer := (q.on w.shared.engine).1
    ((q.course m).alone w.shared).1 = answer ∧
      (∀ later r, (w.after (.turn i :: later)).result? i = some r → r = answer) ∧
      (∃ n, ∀ later, n ≤ later.countP (Deed.isTurn i) →
        (w.after (.turn i :: later)).result? i = some answer) ∧
      ∀ later, ((w.after later).meet (.turn i)).shared.engine = (w.after later).shared.engine := by
  intro i w answer
  have reached : w = (start e).after (before ++ .asks q m :: between) := by
    rw [after_append]
    rfl
  have settled : w.Settled := reached ▸ settled_after e _
  have asked : w.runs[i]? = some (q.course m) := asked_after unbegun
  refine ⟨(m.alone_run _ _ w.shared).trans (congrArg Prod.fst (q.on_eq _).symm), ?_, ?_,
    fun later => ?_⟩
  · intro later r result
    rcases settled.begins asked with obstructed | ⟨c, alone, holds⟩
    · have same := (done_after obstructed later).symm.trans result
      exact (Option.some.inj same).symm
    · have known := (holds.after later).result?.symm.trans result
      rw [Course.eq_alone_of_turns known, Course.alone_turn, alone]
  · rcases settled.begins asked with obstructed | ⟨c, alone, holds⟩
    · exact ⟨0, fun later _ => done_after obstructed later⟩
    · obtain ⟨n, enough⟩ := (c.turn {}).1.exists_turns_eq_done (c.turn {}).2
      refine ⟨n, fun later many => (holds.after later).result?.trans ?_⟩
      rw [enough _ many, Course.alone_turn, alone]
      rfl
  · rw [reached, ← after_append]
    exact ((settled_after e _).goOn i).2

/-- An engine that is ready, with a fact that answers. -/
def serving : Engine where
  setup :=
    let backend : Fact :=
      { name := "backend", calculate := fun _ _ _ => { outcome := .ok (.int 1) } }
    { registry := { facts := [(backend.name, backend)] }, load := fun _ => .failed .silent }
  project := some (.ofFiles [])
  ready := true

/-- The engine is reset, and its new registry has no plugins. -/
def emptied : Deed := .meets ⟨⟨fun _ => .failed .silent, Plugin.prepare, .ok {}⟩, .reset⟩

/-- Another run goes first.  The engine is reset while the run waits for its fact, and the new
registry does not provide the fact; the rule fires. -/
theorem run_isolated_from_reset :
    let q : Inquiry := .file (.rule Snapshot.backendRule) "a.txt" {}
    let between : List Deed := [.asks q .patient, .turn 1]
    let w := ((start serving).meet (.asks q .patient)).after between
    (∀ d ∈ between, d ≠ .turn 0) ∧
      ∃ r, (w.after [.turn 0, emptied, .turn 0]).result? 0 = some r ∧
        r = (q.on w.shared.engine).1 ∧ r.ending = .triggered := by
  intro q between w
  have unbegun : ∀ d ∈ between, d ≠ .turn 0 := by simp [between]
  obtain ⟨-, same, -, -⟩ := run_isolated serving [] between q .patient unbegun
  have fires : ((w.after [.turn 0, emptied, .turn 0]).result? 0).map (·.ending) =
      some .triggered := by
    decide
  obtain ⟨r, result, triggered⟩ := Option.map_eq_some_iff.mp fires
  exact ⟨unbegun, r, result, same _ r result, triggered⟩

end Scene

end Verdict
