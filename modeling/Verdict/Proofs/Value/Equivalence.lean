import Verdict.Proofs.Table
import Verdict.Proofs.Value.Comparison
import Verdict.Proofs.Value.Equality

/-!
# Values: equality as an equivalence

Equality of data is symmetric and transitive, part by part: so for leaves (`Atom.same_iff`), for
items (`sameItems_symm`, `sameItems_trans`) and for the entries of mappings (`same_ofTable_symm`,
`same_ofTable_trans`).  Only NaN may keep a value from being equal to itself (`HoldsNaN`).

* `same_symm`, `same_trans`, `same_refl`: equality by structure.
* `equals_equivalence`: so the equality of operands is an equivalence of definite data, and the
  operators that look for an item among others do not tell equal items apart.
-/

namespace Verdict

open Number (Extended)

/-! ### Leaves -/

namespace Atom

/-- What an atom stands for in an equation as a number: a boolean counts as one or zero. -/
def worth? (a : Atom) : Option Extended := a.number?.bind Num.value?

/-- Leaves are equal if they stand for the same number, or if they are no numbers and are the
same. -/
theorem same_iff {a b : Atom} (ha : a.isJson = true) :
    a.same b = true ↔
      (∃ x, a.worth? = some x ∧ b.worth? = some x) ∨ a.number? = none ∧ a = b := by
  unfold same worth?
  split
  · cases ha
  · split
    next m n numA numB => simp [numA, numB, Num.same_iff_eq]
    next numA numB => simp [numA]
    next notBoth notNeither =>
      cases numA : a.number? with
      | none =>
          have other : a ≠ b := by
            rintro rfl
            exact notNeither numA numA
          simp [other]
      | some m =>
          cases numB : b.number? with
          | none => simp
          | some n => exact absurd numB (notBoth m n numA)

theorem same_symm {a b : Atom} (ha : a.isJson = true) (hb : b.isJson = true)
    (h : a.same b = true) : b.same a = true := by
  rw [same_iff ha] at h
  rw [same_iff hb]
  rcases h with ⟨x, worthA, worthB⟩ | ⟨noNumber, rfl⟩
  · exact .inl ⟨x, worthB, worthA⟩
  · exact .inr ⟨noNumber, rfl⟩

theorem same_trans {a b c : Atom} (ha : a.isJson = true) (hb : b.isJson = true)
    (first : a.same b = true) (second : b.same c = true) : a.same c = true := by
  rcases (same_iff ha).mp first with ⟨x, worthA, worthB⟩ | ⟨-, rfl⟩
  · rcases (same_iff hb).mp second with ⟨y, worthB', worthC⟩ | ⟨-, rfl⟩
    · obtain rfl : x = y := Option.some.inj (worthB.symm.trans worthB')
      exact (same_iff ha).mpr (.inl ⟨x, worthA, worthC⟩)
    · exact first
  · exact second

theorem same_refl {a : Atom} (ha : a.isJson = true) (definite : a ≠ .float .nan) :
    a.same a = true := by
  refine (same_iff ha).mpr ?_
  cases a with
  | bool | int => exact .inl ⟨_, rfl, rfl⟩
  | float x =>
      cases x with
      | nan => exact absurd rfl definite
      | infinity | finite => exact .inl ⟨_, rfl, rfl⟩
  | null | text => exact .inr ⟨rfl, rfl⟩
  | date | moment | bytes => cases ha

end Atom

namespace Value

/-! ### Parts -/

theorem sameItems_symm {xs ys : List Value}
    (each : ∀ x ∈ xs, ∀ y ∈ ys, x.same y = true → y.same x = true)
    (h : sameItems xs ys = true) : sameItems ys xs = true := by
  obtain ⟨length, items⟩ := sameItems_iff.mp h
  exact sameItems_iff.mpr ⟨length.symm, fun i y x hy hx =>
    each x (List.mem_of_getElem? hx) y (List.mem_of_getElem? hy) (items i x y hx hy)⟩

theorem sameItems_trans {xs ys zs : List Value}
    (each : ∀ x ∈ xs, ∀ y ∈ ys, ∀ z ∈ zs, x.same y = true → y.same z = true → x.same z = true)
    (first : sameItems xs ys = true) (second : sameItems ys zs = true) :
    sameItems xs zs = true := by
  obtain ⟨lengthXY, itemsXY⟩ := sameItems_iff.mp first
  obtain ⟨lengthYZ, itemsYZ⟩ := sameItems_iff.mp second
  refine sameItems_iff.mpr ⟨lengthXY.trans lengthYZ, fun i x z hx hz => ?_⟩
  -- the lists are of one length, so there is an item between
  have inside : i < ys.length := lengthXY ▸ (List.getElem?_eq_some_iff.mp hx).1
  have hy : ys[i]? = some ys[i] := List.getElem?_eq_getElem inside
  exact each x (List.mem_of_getElem? hx) _ (List.mem_of_getElem? hy) z (List.mem_of_getElem? hz)
    (itemsXY i x _ hx hy) (itemsYZ i _ z hy hz)

theorem same_ofTable_symm {t u : Table String Value} (ht : t.keys.Nodup) (hu : u.keys.Nodup)
    (each : ∀ p ∈ t, ∀ q ∈ u, p.2.same q.2 = true → q.2.same p.2 = true)
    (h : same (.ofTable t) (.ofTable u) = true) : same (.ofTable u) (.ofTable t) = true := by
  obtain ⟨keys, entries⟩ := (same_ofTable_iff ht hu).mp h
  exact (same_ofTable_iff hu ht).mpr ⟨fun k => (keys k).symm, fun k w v hw hv =>
    each (k, v) (Table.mem_of_get? hv) (k, w) (Table.mem_of_get? hw) (entries k v w hv hw)⟩

theorem same_ofTable_trans {t u r : Table String Value} (ht : t.keys.Nodup) (hu : u.keys.Nodup)
    (hr : r.keys.Nodup)
    (each : ∀ p ∈ t, ∀ q ∈ u, ∀ o ∈ r,
      p.2.same q.2 = true → q.2.same o.2 = true → p.2.same o.2 = true)
    (first : same (.ofTable t) (.ofTable u) = true)
    (second : same (.ofTable u) (.ofTable r) = true) :
    same (.ofTable t) (.ofTable r) = true := by
  obtain ⟨keysTU, entriesTU⟩ := (same_ofTable_iff ht hu).mp first
  obtain ⟨keysUR, entriesUR⟩ := (same_ofTable_iff hu hr).mp second
  refine (same_ofTable_iff ht hr).mpr
    ⟨fun k => (keysTU k).trans (keysUR k), fun k v w hv hw => ?_⟩
  have there : u.has k = true := by rw [← keysTU, Table.has, hv]; rfl
  obtain ⟨x, hx⟩ := Option.isSome_iff_exists.mp there
  exact each (k, v) (Table.mem_of_get? hv) (k, x) (Table.mem_of_get? hx) (k, w)
    (Table.mem_of_get? hw) (entriesTU k v x hv hx) (entriesUR k x w hx hw)

/-! ### Equality by structure -/

theorem same_symm {v w : Value} (hv : v.IsData) (hw : w.IsData) (h : v.same w = true) :
    w.same v = true := by
  induction hv generalizing w with
  | atom ha =>
      cases hw with
      | atom hb => exact Atom.same_symm ha hb h
      | _ => exact absurd h Bool.false_ne_true
  | list _ ih =>
      cases hw with
      | list hys => exact sameItems_symm (fun x hx y hy => ih x hx (hys y hy)) h
      | _ => exact absurd h Bool.false_ne_true
  | tuple _ ih =>
      cases hw with
      | tuple hys => exact sameItems_symm (fun x hx y hy => ih x hx (hys y hy)) h
      | _ => exact absurd h Bool.false_ne_true
  | mapping ht _ ih =>
      cases hw with
      | mapping hu hys => exact same_ofTable_symm ht hu (fun p hp q hq => ih p hp (hys q hq)) h
      | _ => exact absurd h Bool.false_ne_true

theorem same_trans {v w x : Value} (hv : v.IsData) (hw : w.IsData) (hx : x.IsData)
    (first : v.same w = true) (second : w.same x = true) : v.same x = true := by
  induction hv generalizing w x with
  | atom ha =>
      cases hw with
      | atom hb =>
          cases hx with
          | atom => exact Atom.same_trans ha hb first second
          | _ => exact absurd second Bool.false_ne_true
      | _ => exact absurd first Bool.false_ne_true
  | list _ ih =>
      cases hw with
      | list hys =>
          cases hx with
          | list hzs =>
              exact sameItems_trans (fun x hx y hy z hz => ih x hx (hys y hy) (hzs z hz)) first
                second
          | _ => exact absurd second Bool.false_ne_true
      | _ => exact absurd first Bool.false_ne_true
  | tuple _ ih =>
      cases hw with
      | tuple hys =>
          cases hx with
          | tuple hzs =>
              exact sameItems_trans (fun x hx y hy z hz => ih x hx (hys y hy) (hzs z hz)) first
                second
          | _ => exact absurd second Bool.false_ne_true
      | _ => exact absurd first Bool.false_ne_true
  | mapping ht _ ih =>
      cases hw with
      | mapping hu hys =>
          cases hx with
          | mapping hr hzs =>
              exact same_ofTable_trans ht hu hr
                (fun p hp q hq o ho => ih p hp (hys q hq) (hzs o ho)) first second
          | _ => exact absurd second Bool.false_ne_true
      | _ => exact absurd first Bool.false_ne_true

theorem same_refl {v : Value} (hv : v.IsData) (definite : ¬v.HoldsNaN) : v.same v = true := by
  induction hv with
  | atom ha => exact Atom.same_refl ha (mt holdsNaN_atom.mpr definite)
  | list _ ih | tuple _ ih =>
      refine sameItems_iff.mpr ⟨rfl, fun i x y hx hy => ?_⟩
      obtain rfl : x = y := Option.some.inj (hx.symm.trans hy)
      have held := List.mem_of_getElem? hx
      exact ih x held fun nan => definite (.part held nan)
  | mapping ht _ ih =>
      refine (same_ofTable_iff ht ht).mpr ⟨fun _ => rfl, fun k v w hv hw => ?_⟩
      obtain rfl : v = w := Option.some.inj (hv.symm.trans hw)
      have paired := Table.mem_of_get? hv
      exact ih (k, v) paired fun nan => definite (holdsNaN_ofTable.mpr ⟨(k, v), paired, nan⟩)

/-- The order of the keys of a mapping does not matter. -/
theorem same_of_perm {t u : Table String Value} (distinct : t.keys.Nodup)
    (definite : ∀ p ∈ t, p.2.IsData ∧ ¬p.2.HoldsNaN) (perm : t.Perm u) :
    same (.ofTable t) (.ofTable u) = true := by
  have found := Table.get?_of_perm distinct perm
  refine (same_ofTable_iff distinct ((perm.map Prod.fst).nodup_iff.mp distinct)).mpr
    ⟨fun k => by rw [Table.has, Table.has, found], fun k v w hv hw => ?_⟩
  obtain rfl : v = w := Option.some.inj (hv.symm.trans ((found k).trans hw))
  obtain ⟨data, free⟩ := definite (k, v) (Table.mem_of_get? hv)
  exact same_refl data free

/-! ### Equality of operands -/

variable {a b c : Value}

theorem equals_symm (ha : a.IsData) (hb : b.IsData) (h : a.equals b = true) :
    b.equals a = true := by
  rw [equals, Bool.and_eq_true, beq_iff_eq] at h ⊢
  exact ⟨h.1.symm, same_symm ha hb h.2⟩

theorem equals_trans (ha : a.IsData) (hb : b.IsData) (hc : c.IsData) (first : a.equals b = true)
    (second : b.equals c = true) : a.equals c = true := by
  rw [equals, Bool.and_eq_true, beq_iff_eq] at first second ⊢
  exact ⟨first.1.trans second.1, same_trans ha hb hc first.2 second.2⟩

theorem equals_of_same (h : a.same b = true) (kind : a.isBool = b.isBool) :
    a.equals b = true := by
  rw [equals, h, kind, beq_self_eq_true]
  rfl

/-- Equal values equal the same values. -/
theorem equals_congr (ha : a.IsData) (hb : b.IsData) (hc : c.IsData) (h : a.equals b = true) :
    a.equals c = b.equals c :=
  Bool.eq_iff_iff.mpr
    ⟨equals_trans hb ha hc (equals_symm ha hb h), equals_trans ha hb hc h⟩

theorem isMember_congr {items : List Value} (ha : a.IsData) (hb : b.IsData)
    (hitems : ∀ c ∈ items, c.IsData) (h : a.equals b = true) :
    isMember a items = isMember b items := by
  rw [isMember, isMember, Bool.eq_iff_iff, List.any_eq_true, List.any_eq_true]
  exact exists_congr fun c => and_congr_right fun hc => by
    rw [equals_congr ha hb (hitems c hc) h]

/-- What equals a text is that text. -/
theorem eq_text_of_equals {s : String} (hb : b.IsData) (h : (Value.text s).equals b = true) :
    b = .text s := by
  have same : (Value.text s).same b = true := ((Bool.and_eq_true _ _).mp h).2
  have json : (Atom.text s).isJson = true := rfl
  cases hb with
  | atom =>
      rcases (Atom.same_iff json).mp same with ⟨x, worth, -⟩ | ⟨-, rfl⟩
      · cases worth
      · rfl
  | _ => exact absurd same Bool.false_ne_true

end Value

namespace Builtin

open Value

variable {test : Bool → Bool} {a b c : Value}

theorem among_congr (ha : a.IsData) (hb : b.IsData) (hc : c.IsData) (h : a.equals b = true) :
    among test a c = among test b c := by
  rw [Bool.eq_iff_iff, among_iff, among_iff]
  exact exists_congr fun items => and_congr_right fun held => by
    rw [isMember_congr ha hb (fun x hx => hc.item held hx) h]

theorem holding_congr (ha : a.IsData) (hb : b.IsData) (hc : c.IsData) (h : a.equals b = true) :
    holding test c a = holding test c b := by
  have text (s : String) : a = .text s ↔ b = .text s := by
    constructor
    · rintro rfl
      exact eq_text_of_equals hb h
    · rintro rfl
      exact eq_text_of_equals ha (equals_symm ha hb h)
  rw [Bool.eq_iff_iff, holding_iff, holding_iff]
  refine or_congr (by simp only [text]) (exists_congr fun items => and_congr_right fun held => ?_)
  rw [isMember_congr ha hb (fun x hx => hc.item held hx) h]

/-- **Equality is an equivalence** of definite data.  Numbers are equal by their exact values, and
mappings whatever the order of their keys; and so are data that differ in such ways at any depth.
An operator that looks for an item answers the same for equal items. -/
theorem equals_equivalence :
    Equivalence (fun a b : Definite => a.val.equals b.val = true) ∧
      (∀ (a b : Value) x y, a.extended? = some x → b.extended? = some y →
        (a.equals b = true ↔ x = y)) ∧
      (∀ t u : Table String Value, t.keys.Nodup → (∀ p ∈ t, p.2.IsData ∧ ¬p.2.HoldsNaN) →
        t.Perm u → (Value.ofTable t).equals (.ofTable u) = true) ∧
      (∀ a b : Definite, a.val.Alike b.val → a.val.equals b.val = true) ∧
      ∀ a b c : Definite, a.val.equals b.val = true →
        (∀ op ∈ [isIn, notIn], op.holds a.val c.val = op.holds b.val c.val) ∧
          ∀ op ∈ [contains, doesNotContain], op.holds c.val a.val = op.holds c.val b.val := by
  refine ⟨⟨fun a => ?_, fun {a b} h => ?_, fun {a b c} first second => ?_⟩,
    fun a b x y ha hb => equals_iff_extended ha hb, fun t u distinct definite perm => ?_,
    fun a b h => ((alike_iff_equals a.2.1 b.2.1).mp h).1,
    fun a b c h => ⟨fun op hop => ?_, fun op hop => ?_⟩⟩
  · exact equals_of_same (same_refl a.2.1 a.2.2) rfl
  · exact equals_symm a.2.1 b.2.1 h
  · exact equals_trans a.2.1 b.2.1 c.2.1 first second
  · exact equals_of_same (same_of_perm distinct definite perm) rfl
  · rcases List.mem_pair.mp hop with rfl | rfl
    · exact among_congr a.2.1 b.2.1 c.2.1 h
    · exact among_congr a.2.1 b.2.1 c.2.1 h
  · rcases List.mem_pair.mp hop with rfl | rfl
    · exact holding_congr a.2.1 b.2.1 c.2.1 h
    · exact holding_congr a.2.1 b.2.1 c.2.1 h

/-- Mappings that are equal although their keys stand in another order, and one number is an integer
in the one and a floating-point number in the other, are found in the same lists. -/
theorem equals_equivalence_mapping :
    let a := Value.ofTable [("size", .int 9007199254740992), ("tags", .list [.text "x"])]
    let b := Value.ofTable [("tags", .list [.text "x"]),
      ("size", .float (.finite false 4503599627370496 1 (by decide)))]
    let c := Value.list [.null, b]
    (a.IsData ∧ ¬a.HoldsNaN) ∧ (b.IsData ∧ ¬b.HoldsNaN) ∧ (c.IsData ∧ ¬c.HoldsNaN) ∧
      a.equals b = true ∧ b.equals a = true ∧
      isIn.holds a c = true ∧ contains.holds c a = true := by
  intro a b c
  have ha : a.IsData ∧ ¬a.HoldsNaN :=
    ⟨.mapping (by decide) (by simp [Atom.isJson]),
      by simp [a, holdsNaN_ofTable, holdsNaN_list, holdsNaN_atom]⟩
  have hb : b.IsData ∧ ¬b.HoldsNaN :=
    ⟨.mapping (by decide) (by simp [Atom.isJson]),
      by simp [b, holdsNaN_ofTable, holdsNaN_list, holdsNaN_atom]⟩
  have hc : c.IsData ∧ ¬c.HoldsNaN := by
    refine ⟨by simp [c, hb.1, Atom.isJson], ?_⟩
    simp [c, hb.2, holdsNaN_list, holdsNaN_atom]
  have same : a.equals b = true := by decide
  obtain ⟨⟨-, symm, -⟩, -, -, -, found⟩ := equals_equivalence
  have back : b.equals a = true := @symm ⟨a, ha⟩ ⟨b, hb⟩ same
  obtain ⟨amongItems, holdsItem⟩ := found ⟨a, ha⟩ ⟨b, hb⟩ ⟨c, hc⟩ same
  have inside : isIn.holds b c = true := by decide
  have held : contains.holds c b = true := by decide
  refine ⟨ha, hb, hc, same, back, ?_, ?_⟩
  · rw [amongItems isIn (by decide)]
    exact inside
  · rw [holdsItem contains (by decide)]
    exact held

end Builtin

end Verdict
