import Mathlib.Data.List.Basic
import Mathlib.Data.List.TakeWhile
import Verdict.Text.Utf8

/-!
# Text: what bytes are a text

Bytes are read one character after another: the first byte tells how many belong to the character,
and the second one is kept from those that would write it too long, or write half of a pair, or a
code beyond the last.

* `decodeFirst_eq_ok_iff`: the first character of bytes is read exactly if they begin with its form
  in UTF-8.
* `decode_eq_ok_iff`: so bytes are a text exactly if they are the forms of its characters.
-/

namespace Verdict.Text

/-- The bytes of characters in UTF-8. -/
def encode (cs : List Char) : List UInt8 :=
  cs.flatMap String.utf8EncodeChar

variable {b x : UInt8} {further rest : List UInt8} {c : Char}

/-! ### Bytes of a character -/

theorem sequenceLength?_eq_some_iff {n : Nat} : sequenceLength? b = some n ↔
    (n = 1 ∧ b.toNat < 0x80) ∨ (n = 2 ∧ 0xC2 ≤ b.toNat ∧ b.toNat < 0xE0) ∨
      (n = 3 ∧ 0xE0 ≤ b.toNat ∧ b.toNat < 0xF0) ∨ (n = 4 ∧ 0xF0 ≤ b.toNat ∧ b.toNat < 0xF5) := by
  simp only [sequenceLength?, UInt8.lt_iff_toNat_lt, UInt8.reduceToNat]
  split_ifs <;> simp <;> omega

theorem isContinuation_iff : isContinuation x = true ↔ 0x80 ≤ x.toNat ∧ x.toNat ≤ 0xBF := by
  simp [isContinuation, UInt8.le_iff_toNat_le]

/-- The second byte continues, and certain first bytes restrict it. -/
theorem mayFollow_iff : mayFollow b x = true ↔ (0x80 ≤ x.toNat ∧ x.toNat ≤ 0xBF) ∧
    (b.toNat = 0xE0 → 0xA0 ≤ x.toNat) ∧ (b.toNat = 0xED → x.toNat < 0xA0) ∧
      (b.toNat = 0xF0 → 0x90 ≤ x.toNat) ∧ (b.toNat = 0xF4 → x.toNat < 0x90) := by
  simp only [mayFollow, Bool.and_eq_true, isContinuation_iff, beq_iff_eq, ← UInt8.toNat_inj,
    UInt8.reduceToNat]
  split_ifs <;>
    simp only [UInt8.le_iff_toNat_le, UInt8.lt_iff_toNat_lt, UInt8.reduceToNat, decide_eq_true_eq,
      and_true] <;> omega

theorem goodContinuation_le (b : UInt8) (further : List UInt8) :
    goodContinuation b further ≤ further.length := by
  cases further with
  | nil => exact Nat.le_refl 0
  | cons x further =>
      have := (List.takeWhile_prefix isContinuation (l := further)).length_le
      simp only [goodContinuation, List.length_cons]
      split <;> omega

theorem goodContinuation_cons_iff : goodContinuation b (x :: further) = (x :: further).length ↔
    mayFollow b x = true ∧ ∀ y ∈ further, isContinuation y = true := by
  have whole : (further.takeWhile isContinuation).length = further.length ↔
      ∀ y ∈ further, isContinuation y = true := by
    rw [← List.takeWhile_eq_self_iff]
    exact ⟨(List.takeWhile_prefix isContinuation).eq_of_length, congrArg List.length⟩
  cases second : mayFollow b x with
  | true =>
      rw [goodContinuation, if_pos second, List.length_cons, Nat.add_comm, Nat.add_right_cancel_iff,
        whole]
      simp
  | false =>
      have none : goodContinuation b (x :: further) = 0 := by simp [goodContinuation, second]
      simp [none]

/-! ### The first character -/

/-- A first byte and the bytes that belong to it. -/
structure IsSequence (b : UInt8) (further : List UInt8) : Prop where
  length : sequenceLength? b = some (further.length + 1)
  good : goodContinuation b further = further.length

/-- The code that such bytes write. -/
def sequenceCode (b : UInt8) (further : List UInt8) : Nat :=
  codeOf (leadBits (further.length + 1) b) further

variable {y z : UInt8}

theorem sequenceCode_one : sequenceCode b [] = b.toNat := rfl

theorem sequenceCode_two :
    sequenceCode b [x] = (b.toNat - 0xC0) * 64 + (x.toNat - 0x80) := rfl

theorem sequenceCode_three : sequenceCode b [x, y] =
    ((b.toNat - 0xE0) * 64 + (x.toNat - 0x80)) * 64 + (y.toNat - 0x80) := rfl

theorem sequenceCode_four : sequenceCode b [x, y, z] =
    (((b.toNat - 0xF0) * 64 + (x.toNat - 0x80)) * 64 + (y.toNat - 0x80)) * 64 +
      (z.toNat - 0x80) := rfl

theorem decodeFirst_eq_ok_iff_sequence {position n : Nat} :
    decodeFirst position b rest = .ok (c, n) ↔ ∃ further tail, rest = further ++ tail ∧
      IsSequence b further ∧ c = Char.ofNat (sequenceCode b further) ∧ n = further.length + 1 := by
  unfold decodeFirst
  constructor
  · intro h
    cases known : sequenceLength? b with
    | none => simp [known] at h
    | some length =>
        simp only [known] at h
        split at h
        · next good =>
            obtain ⟨rfl, rfl⟩ := Prod.mk.inj (Except.ok.inj h)
            have enough : (rest.take (length - 1)).length = length - 1 := by
              have := goodContinuation_le b (rest.take (length - 1))
              have := List.length_take_le (length - 1) rest
              omega
            have pos : length - 1 + 1 = length := by
              rcases sequenceLength?_eq_some_iff.mp known with h | h | h | h <;> omega
            refine ⟨rest.take (length - 1), rest.drop (length - 1),
              (List.take_append_drop _ _).symm, ⟨?_, ?_⟩, ?_, ?_⟩
            · rw [known, enough, pos]
            · rw [good, enough]
            · rw [sequenceCode, enough, pos]
            · rw [enough, pos]
        · split at h <;> cases h
  · rintro ⟨further, tail, rfl, ⟨length, good⟩, rfl, rfl⟩
    simp [length, good, sequenceCode]

theorem utf8EncodeChar_eq (c : Char) : String.utf8EncodeChar c =
    if c.toNat ≤ 127 then [UInt8.ofNat c.toNat]
    else if c.toNat ≤ 2047 then
      [UInt8.ofNat (c.toNat / 64 % 32 + 192), UInt8.ofNat (c.toNat % 64 + 128)]
    else if c.toNat ≤ 65535 then
      [UInt8.ofNat (c.toNat / 4096 % 16 + 224), UInt8.ofNat (c.toNat / 64 % 64 + 128),
        UInt8.ofNat (c.toNat % 64 + 128)]
    else
      [UInt8.ofNat (c.toNat / 262144 % 8 + 240), UInt8.ofNat (c.toNat / 4096 % 64 + 128),
        UInt8.ofNat (c.toNat / 64 % 64 + 128), UInt8.ofNat (c.toNat % 64 + 128)] :=
  String.utf8EncodeChar.eq_1 c

theorem ofNat_eq_of_toNat {n : Nat} (h : n = b.toNat) : UInt8.ofNat n = b := by
  rw [h, UInt8.ofNat_toNat]

/-- The bytes of a sequence are the form of the character whose code they write. -/
theorem IsSequence.utf8EncodeChar_eq (h : IsSequence b further) :
    String.utf8EncodeChar (Char.ofNat (sequenceCode b further)) = b :: further := by
  have valid (n : Nat) (h : n < 0xD800 ∨ 0xDFFF < n ∧ n < 0x110000) : (Char.ofNat n).toNat = n := by
    have valid : n.isValidChar := h
    rw [Char.ofNat, dif_pos valid]
    rfl
  obtain ⟨length, good⟩ := h
  rw [Text.utf8EncodeChar_eq]
  -- By length. The second byte keeps the code in the range for which that length is the least.
  rcases sequenceLength?_eq_some_iff.mp length with h | h | h | h
  · obtain rfl : further = [] := List.eq_nil_of_length_eq_zero (by omega)
    rw [sequenceCode_one, valid _ (by omega), if_pos (by omega), UInt8.ofNat_toNat]
  · obtain ⟨x, rfl⟩ := List.length_eq_one_iff.mp (by omega : further.length = 1)
    obtain ⟨hx, -⟩ := goodContinuation_cons_iff.mp good
    obtain ⟨⟨lx, ux⟩, -⟩ := mayFollow_iff.mp hx
    rw [sequenceCode_two, valid _ (by omega), if_neg (by omega), if_pos (by omega),
      ofNat_eq_of_toNat (b := b) (by omega), ofNat_eq_of_toNat (b := x) (by omega)]
  · obtain ⟨x, y, rfl⟩ := List.length_eq_two.mp (by omega : further.length = 2)
    obtain ⟨hx, hy⟩ := goodContinuation_cons_iff.mp good
    obtain ⟨⟨lx, ux⟩, overlong, half, -⟩ := mayFollow_iff.mp hx
    obtain ⟨ly, uy⟩ := isContinuation_iff.mp (hy y List.mem_cons_self)
    rw [sequenceCode_three, valid _ (by omega), if_neg (by omega), if_neg (by omega),
      if_pos (by omega),
      ofNat_eq_of_toNat (b := b) (by omega), ofNat_eq_of_toNat (b := x) (by omega),
      ofNat_eq_of_toNat (b := y) (by omega)]
  · obtain ⟨x, y, z, rfl⟩ := List.length_eq_three.mp (by omega : further.length = 3)
    obtain ⟨hx, hyz⟩ := goodContinuation_cons_iff.mp good
    obtain ⟨⟨lx, ux⟩, -, -, overlong, beyond⟩ := mayFollow_iff.mp hx
    obtain ⟨ly, uy⟩ := isContinuation_iff.mp (hyz y (by simp))
    obtain ⟨lz, uz⟩ := isContinuation_iff.mp (hyz z (by simp))
    rw [sequenceCode_four, valid _ (by omega), if_neg (by omega), if_neg (by omega),
      if_neg (by omega),
      ofNat_eq_of_toNat (b := b) (by omega), ofNat_eq_of_toNat (b := x) (by omega),
      ofNat_eq_of_toNat (b := y) (by omega), ofNat_eq_of_toNat (b := z) (by omega)]

/-- The form of a character is a sequence that writes its code. -/
theorem exists_isSequence (c : Char) : ∃ b further, String.utf8EncodeChar c = b :: further ∧
    IsSequence b further ∧ Char.ofNat (sequenceCode b further) = c := by
  suffices ∃ b further, String.utf8EncodeChar c = b :: further ∧ IsSequence b further ∧
      sequenceCode b further = c.toNat by
    obtain ⟨b, further, form, sequence, code⟩ := this
    exact ⟨b, further, form, sequence, by rw [code, Char.ofNat_toNat]⟩
  have valid : c.toNat < 0xD800 ∨ 0xDFFF < c.toNat ∧ c.toNat < 0x110000 := c.valid
  have byte {n : Nat} (h : n < 256) : (UInt8.ofNat n).toNat = n :=
    UInt8.toNat_ofNat_of_lt' h
  rw [Text.utf8EncodeChar_eq]
  generalize c.toNat = v at valid ⊢
  split
  · refine ⟨_, [], rfl, ⟨sequenceLength?_eq_some_iff.mpr ?_, rfl⟩, byte (by omega)⟩
    rw [byte (by omega)]
    simp
    omega
  split
  · refine ⟨_, _, rfl, ⟨sequenceLength?_eq_some_iff.mpr ?_, goodContinuation_cons_iff.mpr ?_⟩, ?_⟩
    · rw [byte (by omega)]
      simp
      omega
    · rw [mayFollow_iff, byte (by omega), byte (by omega)]
      simp
      omega
    · rw [sequenceCode_two, byte (by omega), byte (by omega)]
      omega
  split
  · refine ⟨_, _, rfl, ⟨sequenceLength?_eq_some_iff.mpr ?_, goodContinuation_cons_iff.mpr ?_⟩, ?_⟩
    · rw [byte (by omega)]
      simp
      omega
    · simp only [mayFollow_iff, List.forall_mem_singleton, isContinuation_iff]
      rw [byte (by omega), byte (by omega), byte (by omega)]
      omega
    · rw [sequenceCode_three, byte (by omega), byte (by omega), byte (by omega)]
      omega
  · refine ⟨_, _, rfl, ⟨sequenceLength?_eq_some_iff.mpr ?_, goodContinuation_cons_iff.mpr ?_⟩, ?_⟩
    · rw [byte (by omega)]
      simp
      omega
    · simp only [mayFollow_iff, List.forall_mem_cons, List.not_mem_nil, IsEmpty.forall_iff,
        implies_true, and_true, isContinuation_iff]
      rw [byte (by omega), byte (by omega), byte (by omega), byte (by omega)]
      omega
    · rw [sequenceCode_four, byte (by omega), byte (by omega), byte (by omega), byte (by omega)]
      omega

/-- **The first character** of bytes is read exactly if they begin with its form. -/
theorem decodeFirst_eq_ok_iff {position n : Nat} :
    decodeFirst position b rest = .ok (c, n) ↔
      ∃ tail, b :: rest = String.utf8EncodeChar c ++ tail ∧
        n = (String.utf8EncodeChar c).length := by
  rw [decodeFirst_eq_ok_iff_sequence]
  constructor
  · rintro ⟨further, tail, rfl, sequence, rfl, rfl⟩
    exact ⟨tail, by rw [sequence.utf8EncodeChar_eq]; rfl,
      by rw [sequence.utf8EncodeChar_eq, List.length_cons]⟩
  · rintro ⟨tail, whole, rfl⟩
    obtain ⟨b', further, form, sequence, code⟩ := exists_isSequence c
    rw [form, List.cons_append, List.cons.injEq] at whole
    obtain ⟨rfl, rfl⟩ := whole
    exact ⟨further, tail, rfl, sequence, code.symm, by rw [form, List.length_cons]⟩

/-! ### All characters -/

theorem decodeFrom_eq_drop (position : Nat) {skip : Nat} {bytes : List UInt8}
    (h : skip ≤ bytes.length) :
    decodeFrom position skip bytes = decodeFrom (position + skip) 0 (bytes.drop skip) := by
  induction bytes generalizing position skip with
  | nil =>
      obtain rfl : skip = 0 := Nat.le_zero.mp h
      rfl
  | cons b bytes ih =>
      cases skip with
      | zero => rfl
      | succ skip =>
          rw [decodeFrom, ih _ (Nat.le_of_succ_le_succ h), List.drop_succ_cons, Nat.add_right_comm,
            Nat.add_assoc]

theorem decodeFrom_append (position : Nat) (c : Char) (rest : List UInt8) :
    decodeFrom position 0 (String.utf8EncodeChar c ++ rest) =
      (c :: ·) <$> decodeFrom (position + (String.utf8EncodeChar c).length) 0 rest := by
  obtain ⟨b, further, form, -⟩ := exists_isSequence c
  have first : decodeFirst position b (further ++ rest) = .ok (c, further.length + 1) :=
    decodeFirst_eq_ok_iff.mpr ⟨rest, by rw [form, List.cons_append], by rw [form, List.length_cons]⟩
  have within : further.length ≤ (further ++ rest).length := by simp
  have behind := decodeFrom_eq_drop (position + 1) within
  rw [List.drop_left] at behind
  rw [form, List.cons_append, decodeFrom, first]
  simp only [bind, Except.bind, Nat.add_sub_cancel, behind, List.length_cons]
  rw [Nat.add_right_comm, Nat.add_assoc]
  cases decodeFrom (position + (further.length + 1)) 0 rest <;> rfl

theorem exists_of_decodeFrom_cons {position : Nat} {cs : List Char}
    (read : decodeFrom position 0 (b :: rest) = .ok cs) : ∃ c tail later, cs = c :: later ∧
      b :: rest = String.utf8EncodeChar c ++ tail ∧
      decodeFrom (position + (String.utf8EncodeChar c).length) 0 tail = .ok later := by
  cases first : decodeFirst position b rest with
  | error fault => simp [decodeFrom, first, bind, Except.bind] at read
  | ok p =>
      obtain ⟨tail, whole, -⟩ := decodeFirst_eq_ok_iff.mp first
      rw [whole, decodeFrom_append] at read
      cases further : decodeFrom (position + (String.utf8EncodeChar p.1).length) 0 tail with
      | error fault =>
          rw [further] at read
          cases read
      | ok later =>
          rw [further] at read
          cases read
          exact ⟨p.1, tail, later, rfl, whole, further⟩

theorem decodeFrom_eq_ok_iff {position : Nat} {bytes : List UInt8} {cs : List Char} :
    decodeFrom position 0 bytes = .ok cs ↔ bytes = encode cs := by
  constructor
  · intro read
    -- On the characters, since each takes several bytes.
    induction cs generalizing position bytes with
    | nil =>
        cases bytes with
        | nil => rfl
        | cons b rest =>
            obtain ⟨c, tail, later, ⟨⟩, -⟩ := exists_of_decodeFrom_cons read
    | cons c cs ih =>
        cases bytes with
        | nil => cases read
        | cons b rest =>
            obtain ⟨_, tail, _, ⟨⟩, whole, later⟩ := exists_of_decodeFrom_cons read
            rw [whole, ih later, encode, encode, List.flatMap_cons]
  · rintro rfl
    induction cs generalizing position with
    | nil => rfl
    | cons c cs ih =>
        rw [encode, List.flatMap_cons, decodeFrom_append, ← encode, ih]
        rfl

/-- **Bytes are a text** exactly if they are the forms of its characters. -/
theorem decode_eq_ok_iff {bytes : List UInt8} {cs : List Char} :
    decode bytes = .ok cs ↔ bytes = encode cs :=
  decodeFrom_eq_ok_iff

theorem encode_injective : Function.Injective encode := by
  intro cs ds same
  exact Except.ok.inj ((decode_eq_ok_iff.mpr rfl).symm.trans (decode_eq_ok_iff.mpr same))

end Verdict.Text
