import Verdict.Plugin.Registry
import Verdict.Proofs.Table

/-!
# Plugins: calls that register them

Plugins are registered by calls, one after another.  A call changes the three tables of a registry
in turn (`enroll`), but one that is refused has changed none of them (`enroll_eq`), and the next
call goes on from there.

* `Lists`: a registry lists plugins by name, and under the name of a fact or an operator it has what
  the latest of them provides.
* `Lists.call_of_mem`, `Lists.joined`: a name that is listed is refused, and a plugin of a new name
  joins the list.
* `Lists.afterCalls`: so after any calls the registry lists the plugins that were accepted.
* `afterCalls_latest`: what that means for the views of the registry.
-/

namespace Verdict

namespace Plugin

/-- What a plugin is put together from: its facts and operators in the order in which they are
given, where a name may come twice. -/
structure Parts where
  name : String
  version : String := "0.0.0"
  description : String := ""
  facts : List Fact := []
  operators : List Operator := []
  waits : Bool := false
  prepare : Project → Except Failure Unit := fun _ => .ok ()

namespace Parts

/-- The plugin of the parts. -/
def assembled (parts : Parts) : Plugin :=
  { ofLists parts.name parts.version parts.description parts.facts parts.operators with
    waits := parts.waits
    prepare := parts.prepare }

/-- The fact that is provided under a name: the last one. -/
def fact? (parts : Parts) (name : String) : Option Fact :=
  parts.facts.reverse.find? (·.name == name)

/-- The operator that is provided under a name: the last one. -/
def operator? (parts : Parts) (name : String) : Option Operator :=
  parts.operators.reverse.find? (·.name == name)

end Parts

end Plugin

namespace Registry

open Plugin (Parts)

variable {r : Registry} {done : List Parts}

/-! ### One call -/

/-- The changes of a call, one after another.  A refusal would keep those made before it. -/
def enroll (p : Plugin) : EStateM PluginFault Registry Unit := do
  if (← get).plugins.has p.name then throw (.duplicate p.name)
  modify fun r => { r with plugins := r.plugins.insert p.name p }
  modify fun r => { r with facts := r.facts.insertAll p.facts }
  modify fun r => { r with operators := r.operators.insertAll p.operators }

/-- **A refusal comes before every change.** -/
theorem enroll_eq (p : Plugin) (r : Registry) :
    (enroll p).run r = match r.register p with
      | .ok after => .ok () after
      | .error fault => .error fault r := by
  simp only [enroll, EStateM.run_bind, EStateM.run_get, register]
  split
  · simp only [EStateM.run_bind, EStateM.run_throw]
  · simp only [EStateM.run_bind, EStateM.run_modify]

/-- What a call comes to, and the registry after it. -/
def call (r : Registry) (p : Plugin) : Except PluginFault Unit × Registry :=
  match (enroll p).run r with
  | .ok _ after => (.ok (), after)
  | .error fault after => (.error fault, after)

/-- What a registry lists. -/
structure Lists (done : List Parts) (r : Registry) : Prop where
  plugins : r.plugins = done.map fun parts => (parts.name, parts.assembled)
  distinct : (done.map (·.name)).Nodup
  facts : ∀ name, r.facts.get? name = done.reverse.findSome? (·.fact? name)
  operators : ∀ name, r.operators.get? name = done.reverse.findSome? (·.operator? name)

theorem lists_empty : Lists [] {} where
  plugins := rfl
  distinct := List.nodup_nil
  facts _ := rfl
  operators _ := rfl

theorem Lists.pluginNames (lists : r.Lists done) : r.pluginNames = done.map (·.name) := by
  rw [Registry.pluginNames, lists.plugins, Table.keys, List.map_map]
  rfl

theorem Lists.has_iff (lists : r.Lists done) {name : String} :
    r.plugins.has name = true ↔ name ∈ done.map (·.name) := by
  rw [Table.has_iff_mem_keys, ← lists.pluginNames, Registry.pluginNames]

/-- A name that is listed is refused, and nothing changes. -/
theorem Lists.call_of_mem (lists : r.Lists done) {p : Plugin} (old : p.name ∈ done.map (·.name)) :
    r.call p = (.error (.duplicate p.name), r) := by
  rw [call, enroll_eq, register, if_pos (lists.has_iff.mpr old)]

/-- A new name is accepted. -/
theorem Lists.call_of_notMem (lists : r.Lists done) {p : Plugin}
    (new : p.name ∉ done.map (·.name)) :
    r.call p = (.ok (), {
      plugins := r.plugins.insert p.name p
      facts := r.facts.insertAll p.facts
      operators := r.operators.insertAll p.operators }) := by
  rw [call, enroll_eq, register, if_neg (mt lists.has_iff.mp new)]

/-- What the latest of several provides: the last one's own, or else what the others provide. -/
theorem findSome?_latest {α : Type} (provided : Parts → Option α) (parts : Parts) :
    (done ++ [parts]).reverse.findSome? provided =
      (provided parts).or (done.reverse.findSome? provided) := by
  rw [List.reverse_append, List.findSome?_append, List.reverse_singleton, List.findSome?_singleton]

/-- A plugin of a new name joins the list. -/
theorem Lists.joined (lists : r.Lists done) {parts : Parts}
    (new : parts.name ∉ done.map (·.name)) :
    (r.call parts.assembled).2.Lists (done ++ [parts]) := by
  have free : parts.name ∉ r.plugins.keys := by
    rwa [← Table.has_iff_mem_keys, lists.has_iff]
  rw [lists.call_of_notMem new]
  refine ⟨?_, ?_, fun name => ?_, fun name => ?_⟩
  · show r.plugins.insert parts.name parts.assembled = _
    rw [Table.insert_of_new free, lists.plugins, List.map_append, List.map_singleton]
  · rw [List.map_append, List.map_singleton, ← List.concat_eq_append]
    exact lists.distinct.concat new
  · show (r.facts.insertAll (Table.ofPairs (parts.facts.map fun f => (f.name, f)))).get? name = _
    rw [Table.insertAll_ofPairs, Table.get?_insertAll_named, lists.facts, findSome?_latest]
    rfl
  · show (r.operators.insertAll
      (Table.ofPairs (parts.operators.map fun o => (o.name, o)))).get? name = _
    rw [Table.insertAll_ofPairs, Table.get?_insertAll_named, lists.operators, findSome?_latest]
    rfl

/-! ### Calls one after another -/

/-- The registry after calls, whatever each of them comes to. -/
def afterCalls (r : Registry) (calls : List Parts) : Registry :=
  calls.foldl (fun r parts => (r.call parts.assembled).2) r

/-- The plugins of the calls that succeed. -/
def accepted (r : Registry) : List Parts → List Parts
  | [] => []
  | parts :: rest =>
    match r.call parts.assembled with
    | (.ok (), after) => parts :: after.accepted rest
    | (.error _, after) => after.accepted rest

/-- **After any calls** the registry lists the plugins that were accepted. -/
theorem Lists.afterCalls : ∀ {calls done : List Parts} {r : Registry}, r.Lists done →
    (r.afterCalls calls).Lists (done ++ r.accepted calls)
  | [], done, _, lists => (List.append_nil done).symm ▸ lists
  | parts :: rest, done, r, lists => by
      show ((r.call parts.assembled).2.afterCalls rest).Lists _
      by_cases old : parts.name ∈ done.map (·.name)
      · have refused := lists.call_of_mem (p := parts.assembled) old
        rw [accepted, refused]
        exact lists.afterCalls
      · have joined := lists.joined old
        have fine := lists.call_of_notMem (p := parts.assembled) old
        rw [accepted, fine, List.append_cons]
        exact (fine ▸ joined).afterCalls

/-- **The law of registration.**  After any calls from an empty registry, a further call fails
exactly if a plugin of that name was accepted before; it then says so, and the registry stays as it
was.  The names of plugins are those that were accepted, each once and in order.  Under the name of
a fact or an operator there is what the latest accepted plugin that has one of that name provides,
the last of its own if it has several, and nothing if no plugin has any. -/
theorem afterCalls_latest (calls : List Parts) :
    let r := afterCalls {} calls
    let done := accepted {} calls
    (∀ p, (∃ fault, (r.call p).1 = .error fault) ↔ p.name ∈ done.map (·.name)) ∧
      (∀ p fault, (r.call p).1 = .error fault →
        fault = .duplicate p.name ∧ (r.call p).2 = r) ∧
      (r.pluginNames = done.map (·.name) ∧ r.pluginNames.Nodup) ∧
      (∀ name, r.facts.get? name = done.reverse.findSome? (·.fact? name)) ∧
      ∀ name, r.operators.get? name = done.reverse.findSome? (·.operator? name) := by
  intro r done
  have lists : r.Lists done := lists_empty.afterCalls
  refine ⟨fun p => ⟨fun ⟨fault, failed⟩ => ?_, fun old => ?_⟩, fun p fault failed => ?_,
    ⟨lists.pluginNames, lists.pluginNames ▸ lists.distinct⟩, lists.facts, lists.operators⟩
  · by_contra new
    rw [lists.call_of_notMem new] at failed
    cases failed
  · exact ⟨_, congrArg Prod.fst (lists.call_of_mem old)⟩
  · by_cases old : p.name ∈ done.map (·.name)
    · rw [lists.call_of_mem old] at failed ⊢
      exact ⟨(Except.error.inj failed).symm, rfl⟩
    · rw [lists.call_of_notMem old] at failed
      cases failed

end Registry

end Verdict
