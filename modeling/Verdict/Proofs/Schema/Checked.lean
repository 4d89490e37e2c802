import Verdict.Proofs.Value.Parts
import Verdict.Schema.Record

/-!
# Schemas: readings that succeed

When a combined reading succeeds, and with what result: the results of its parts.  There is one
equivalence for every way of combining readings, by which later proofs take a reading apart.
-/

namespace Verdict.Schema

namespace Checked

variable {α β : Type}

@[simp] theorem fail_eq_ok {d : Defect} {a : α} : (fail d : Checked α) = .ok a ↔ False :=
  ⟨nofun, False.elim⟩

@[simp] theorem map_eq_ok {f : α → β} {x : Checked α} {b : β} :
    x.map f = .ok b ↔ ∃ a, x = .ok a ∧ f a = b := by
  cases x <;> simp [map]

@[simp] theorem functorMap_eq_ok {f : α → β} {x : Checked α} {b : β} :
    f <$> x = .ok b ↔ ∃ a, x = .ok a ∧ f a = b :=
  map_eq_ok

@[simp] theorem seq_eq_ok {f : Checked (α → β)} {x : Checked α} {b : β} :
    f <*> x = .ok b ↔ ∃ g a, f = .ok g ∧ x = .ok a ∧ g a = b := by
  show apply f x = .ok b ↔ _
  cases f <;> cases x <;> simp [apply]

@[simp] theorem under_eq_ok {part : String} {x : Checked α} {a : α} :
    x.under part = .ok a ↔ x = .ok a := by
  cases x <;> simp [under]

@[simp] theorem andAlso_eq_ok {x : Checked α} {y : Checked Unit} {a : α} :
    x.andAlso y = .ok a ↔ x = .ok a ∧ y = .ok () := by
  cases x <;> cases y <;> simp [andAlso, map, apply]

@[simp] theorem check_eq_ok {x : Checked α} {test : α → Option Defect} {a : α} :
    x.check test = .ok a ↔ x = .ok a ∧ test a = none := by
  cases x with
  | faulty => simp [check]
  | ok b =>
      simp only [check, ok.injEq]
      constructor
      · intro h
        split at h
        · exact absurd h (by simp)
        · next passed =>
            cases h
            exact ⟨rfl, passed⟩
      · rintro ⟨rfl, passed⟩
        rw [passed]

end Checked

variable {α : Type} {pairs : Pairs}

/-! ### Fields -/

@[simp] theorem required_eq_ok {name : String} {read : Value → Checked α} {a : α} :
    required pairs name read = .ok a ↔
      ∃ v, Table.get? pairs (.text name) = some v ∧ read v = .ok a := by
  rw [required, Checked.under_eq_ok]
  split
  · next v found => simp [found]
  · next found => simp [found]

@[simp] theorem optional_eq_ok {name : String} {absent : α} {read : Value → Checked α} {a : α} :
    optional pairs name absent read = .ok a ↔
      (Table.get? pairs (.text name) = none ∧ a = absent) ∨
        ∃ v, Table.get? pairs (.text name) = some v ∧ read v = .ok a := by
  unfold optional
  split
  · next v found => simp [found]
  · next found => simp [found, eq_comm]

theorem nullable_eq_ok {read : Value → Checked α} {v : Value} {o : Option α} :
    nullable read v = .ok o ↔
      (v = .null ∧ o = none) ∨ (v ≠ .null ∧ ∃ a, read v = .ok a ∧ o = some a) := by
  by_cases hv : v = .null
  · subst hv
    simp [nullable, eq_comm]
  · have present : nullable read v = (read v).map some := by
      unfold nullable
      split
      · exact absurd rfl hv
      · rfl
    rw [present]
    simp [hv, eq_comm]

/-- There are no other keys exactly if every key is one of the names. -/
theorem noOthers_eq_ok {names : List String} :
    noOthers names pairs = .ok () ↔ ∀ p ∈ pairs, ∃ s ∈ names, p.1 = .text s := by
  unfold noOthers
  split
  · next noIssues =>
      refine ⟨fun _ p hp => ?_, fun _ => rfl⟩
      have hpassed := List.filterMap_eq_nil_iff.mp noIssues p hp
      obtain ⟨k, v⟩ := p
      cases k with
      | text s => exact ⟨s, by simpa using hpassed, rfl⟩
      | _ => simp at hpassed
  · next issues anIssue =>
      refine ⟨nofun, fun known => (anIssue (List.filterMap_eq_nil_iff.mpr fun p hp => ?_)).elim⟩
      obtain ⟨s, hs, hkey⟩ := known p hp
      obtain ⟨k, v⟩ := p
      obtain rfl : k = .text s := hkey
      simpa using hs

end Verdict.Schema
