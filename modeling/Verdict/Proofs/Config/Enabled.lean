import Verdict.Config.Reading
import Verdict.Proofs.Plugin.Own
import Verdict.Proofs.Schema.Checked
import Verdict.Simulation.Engine

/-!
# Configuration: the engine that it builds

A configuration that is accepted enables plugins of the library only, but it may name one of them
twice, and a registry refuses a second plugin of one name.

* `known_of_read`: the names in an accepted configuration are those of the library's plugins.
* `Registers`, `addOwn_cases`: names are registered one after another, up to the first that has
  come before.
* `ofConfig_of_read`: so an accepted configuration builds an engine exactly if it names no plugin
  twice, and its registry then holds the plugins that are named.
-/

namespace Verdict

open Schema

/-- A plugin of the library has this name. -/
def IsKnown (name : String) : Prop :=
  name ∈ Plugin.ownPlugins.map (·.name)

theorem unknownPlugins_eq_none_iff {names : List String} :
    unknownPlugins names = none ↔ ∀ name ∈ names, IsKnown name := by
  simp [unknownPlugins, IsKnown]

theorem known_of_readPlugins {v : Value} {names : List String} (h : readPlugins v = .ok names) :
    ∀ name ∈ names, IsKnown name := by
  unfold readPlugins readRecord at h
  split at h
  · obtain ⟨(⟨-, rfl⟩ | ⟨w, -, read⟩), -⟩ := by simpa using h
    · exact fun name hname => hname
    · rw [readPluginNames, Checked.check_eq_ok, unknownPlugins_eq_none_iff] at read
      exact read.2
  · cases h

/-- **An accepted configuration** enables plugins of the library only. -/
theorem known_of_read {v : Value} {config : Config} (h : Config.read v = .ok config) :
    ∀ name ∈ config.plugins, IsKnown name := by
  unfold Config.read readRecord at h
  split at h
  · rw [Checked.andAlso_eq_ok] at h
    simp only [Checked.seq_eq_ok, Checked.functorMap_eq_ok] at h
    obtain ⟨⟨_, names, ⟨_, simulation, ⟨_, fixtures, ⟨version, -, rfl⟩, -, rfl⟩, -, rfl⟩,
      enabled, rfl⟩, -⟩ := h
    rcases optional_eq_ok.mp enabled with ⟨-, rfl⟩ | ⟨w, -, read⟩
    · exact fun name hname => hname
    · exact known_of_readPlugins read
  · cases h

namespace Registry

/-- The plugins of a registry are those of the library with these names, in this order. -/
structure Registers (r : Registry) (names : List String) : Prop where
  keys : r.plugins.keys = names
  own : ∀ name p, (name, p) ∈ r.plugins → Plugin.own? name = .ok p

theorem registers_empty : Registers {} [] where
  keys := rfl
  own := nofun

variable {r : Registry} {names : List String} {name : String}

theorem exists_own (h : IsKnown name) : ∃ p, Plugin.own? name = .ok p ∧ p.name = name := by
  obtain ⟨p, hp, same⟩ := List.mem_map.mp h
  have found : (Plugin.ownPlugins.find? (·.name == name)).isSome = true :=
    List.find?_isSome.mpr ⟨p, hp, beq_iff_eq.mpr same⟩
  obtain ⟨q, found⟩ := Option.isSome_iff_exists.mp found
  exact ⟨q, by rw [Plugin.own?, found], by simpa using List.find?_some found⟩

/-- A name that has come before is refused. -/
theorem Registers.register_of_mem (h : r.Registers names) {p : Plugin} (old : p.name ∈ names) :
    r.register p = .error (.duplicate p.name) := by
  rw [Registry.register, if_pos (Table.has_iff_mem_keys.mpr (h.keys.symm ▸ old))]

/-- A new name is registered behind the others. -/
theorem Registers.register_of_notMem (h : r.Registers names) {p : Plugin}
    (own : Plugin.own? p.name = .ok p) (new : p.name ∉ names) :
    ∃ r', r.register p = .ok r' ∧ r'.Registers (names ++ [p.name]) := by
  have free : p.name ∉ r.plugins.keys := h.keys.symm ▸ new
  rw [Registry.register, if_neg (mt Table.has_iff_mem_keys.mp free)]
  refine ⟨_, rfl, ?_, ?_⟩
  · simp only [Table.insert_of_new free, Table.keys, List.map_append, List.map_cons, List.map_nil]
    rw [← h.keys, Table.keys]
  · intro name q among
    rw [Table.insert_of_new free] at among
    rcases List.mem_append.mp among with old | added
    · exact h.own name q old
    · obtain ⟨rfl, rfl⟩ := Prod.mk.inj (List.mem_singleton.mp added)
      exact own

/-- The first name of a list that has come before in it. -/
def IsFirstRepeated (names : List String) (name : String) : Prop :=
  ∃ before after, names = before ++ name :: after ∧ before.Nodup ∧ name ∈ before

theorem IsFirstRepeated.not_nodup (h : IsFirstRepeated names name) : ¬names.Nodup := by
  obtain ⟨before, after, rfl, -, old⟩ := h
  intro distinct
  exact (List.nodup_append.mp distinct).2.2 name old name List.mem_cons_self rfl

/-- **Names are registered** one after another, or up to the first that has come before. -/
theorem addOwn_cases : ∀ {names done : List String} {r : Registry}, r.Registers done →
    done.Nodup → (∀ name ∈ names, IsKnown name) →
      (∃ r', r.addOwn names = .ok r' ∧ r'.Registers (done ++ names) ∧ (done ++ names).Nodup) ∨
        ∃ name, r.addOwn names = .error (.duplicate name) ∧
          IsFirstRepeated (done ++ names) name := by
  intro names
  -- The names registered so far go along: a repetition is found among them.
  induction names with
  | nil =>
      intro done r registers distinct _
      rw [List.append_nil]
      exact .inl ⟨r, rfl, registers, distinct⟩
  | cons name names ih =>
      intro done r registers distinct known
      obtain ⟨first, more⟩ := List.forall_mem_cons.mp known
      obtain ⟨p, own, rfl⟩ := exists_own first
      by_cases old : p.name ∈ done
      · refine .inr ⟨p.name, ?_, done, names, rfl, distinct, old⟩
        rw [addOwn, own]
        show (r.register p >>= fun r' => r'.addOwn names) = _
        rw [registers.register_of_mem old]
        rfl
      · obtain ⟨r', registered, registers⟩ := registers.register_of_notMem own old
        have step : r.addOwn (p.name :: names) = r'.addOwn names := by
          rw [addOwn, own]
          show (r.register p >>= fun r' => r'.addOwn names) = _
          rw [registered]
          rfl
        have split : done ++ p.name :: names = done ++ [p.name] ++ names := by simp
        rw [step, split]
        refine ih registers ?_ more
        have alone : [p.name].Nodup := List.nodup_cons.mpr ⟨List.not_mem_nil, List.nodup_nil⟩
        refine List.nodup_append.mpr ⟨distinct, alone, fun a ha b hb same => ?_⟩
        obtain rfl := List.mem_singleton.mp hb
        exact old (same ▸ ha)

end Registry

namespace Engine

open Registry

/-- **The engine of an accepted configuration.**  It is built exactly if no plugin is named twice.
Its registry holds the plugins of the library that are named, in their order; if there is none, the
first plugin that is named again is refused. -/
theorem ofConfig_of_read {v : Value} {config : Config} (accepted : Config.read v = .ok config)
    (load : String → Fixture.Loading) :
    ((∃ e, ofConfig config load = .ok e) ↔ config.plugins.Nodup) ∧
      (∀ e, ofConfig config load = .ok e → e.setup.registry.Registers config.plugins) ∧
        ∀ fault, ofConfig config load = .error fault →
          ∃ name, fault = .duplicate name ∧ IsFirstRepeated config.plugins name := by
  have cases := addOwn_cases registers_empty List.nodup_nil (known_of_read accepted)
  rw [List.nil_append] at cases
  have built : ofConfig config load =
      (addOwn {} config.plugins).map fun registry => start { config, registry, load } := by
    show (addOwn {} config.plugins >>= fun registry => pure _) = _
    cases addOwn {} config.plugins with
    | ok r => rfl
    | error fault => rfl
  rcases cases with ⟨r, added, registers, distinct⟩ | ⟨name, refused, repeated⟩
  · rw [built, added, Except.map]
    exact ⟨⟨fun _ => distinct, fun _ => ⟨_, rfl⟩⟩, fun e he => Except.ok.inj he ▸ registers, nofun⟩
  · rw [built, refused, Except.map]
    refine ⟨⟨?_, fun distinct => absurd distinct repeated.not_nodup⟩, ?_, fun fault same => ?_⟩
    · rintro ⟨e, he⟩
      cases he
    · intro e he
      cases he
    · exact ⟨name, (Except.error.inj same).symm, repeated⟩

/-- A configuration that enables plugins by name. -/
def enabling (names : List String) : Value :=
  .ofPairs [("plugins", .ofPairs [("enabled", .texts names)])]

/-- Both plugins, in another order than the usual one. -/
theorem ofConfig_of_reversed : ∃ config,
    Config.read (enabling ["patterns", "filesystem"]) = .ok config ∧ config.plugins.Nodup ∧
      ∀ load, ∃ e, ofConfig config load = .ok e ∧
        e.setup.registry.pluginNames = ["patterns", "filesystem"] := by
  have accepted : Config.read (enabling ["patterns", "filesystem"]) =
      .ok { plugins := ["patterns", "filesystem"] } := by rfl
  have distinct : ["patterns", "filesystem"].Nodup := by decide
  refine ⟨_, accepted, distinct, fun load => ?_⟩
  obtain ⟨builds, registers, -⟩ := ofConfig_of_read accepted load
  obtain ⟨e, built⟩ := builds.mpr distinct
  exact ⟨e, built, (registers e built).keys⟩

/-- A plugin that is enabled twice is accepted, and no engine is built. -/
theorem ofConfig_of_repeated : ∃ config,
    Config.read (enabling ["filesystem", "filesystem"]) = .ok config ∧
      ∀ load, ofConfig config load = .error (.duplicate "filesystem") := by
  have accepted : Config.read (enabling ["filesystem", "filesystem"]) =
      .ok { plugins := ["filesystem", "filesystem"] } := by rfl
  exact ⟨_, accepted, fun load => rfl⟩

end Engine

end Verdict
