import Verdict.Proofs.Number.Digits
import Verdict.Proofs.Schema.Checked
import Verdict.Schema.Moment
import Verdict.Value.Wire

/-!
# Schemas: written moments

A moment in wire form is read as the moment (`readMoment_wire`), if it exists and its offset from
universal time is a whole number of minutes, which is all that the wire form tells of it.
-/

namespace Verdict

/-- The moment exists: its date in the calendar, its time of day on the clock, and its offset from
universal time, in whole minutes, is less than a day. -/
structure Moment.IsProper (m : Moment) : Prop where
  date : Calendar.isDate m.date.year m.date.month m.date.day = true
  hour : m.hour < 24
  minute : m.minute < 60
  second : m.second < 60
  microsecond : m.microsecond < 1000000
  offset : ∀ seconds, m.offset = some seconds → 60 ∣ seconds ∧ seconds.natAbs < 86400

namespace Schema

/-! ### Digits -/

/-- The characters of a number in so many digits. -/
theorem padded_digits {width n : Nat} (positive : 0 < width) (small : n < 10 ^ width) :
    (padded width n).toList.length = width ∧ (∀ c ∈ (padded width n).toList, c.isDigit = true) ∧
      Number.natOfDigits (padded width n).toList = n := by
  have short := (Nat.length_toDigits_le_iff (by decide) positive).mpr small
  rw [padded, String.toList_ofList]
  refine ⟨by simp; omega, fun c hc => ?_, ?_⟩
  · rcases List.mem_append.mp hc with zero | digit
    · exact List.eq_of_mem_replicate zero ▸ rfl
    · exact Nat.isDigit_of_mem_toDigits (by decide) (by decide) digit
  · rw [Number.natOfDigits_zeros_append, Number.natOfDigits_toDigits]

theorem fixedDigits_append {ε : Type} (short wrong : ε) (rest : List Char) :
    ∀ {ds : List Char}, (∀ c ∈ ds, c.isDigit = true) → ∀ n : Nat,
      fixedDigits short wrong ds.length (ds ++ rest) n = .ok (Nat.ofDigitChars 10 ds n, rest)
  | [], _, _ => rfl
  | c :: ds, digits, n => by
      obtain ⟨digit, digits⟩ := List.forall_mem_cons.mp digits
      rw [List.length_cons, List.cons_append, fixedDigits, if_pos digit,
        fixedDigits_append short wrong rest digits, Nat.ofDigitChars_cons, Nat.mul_comm]

/-- A number in so many digits is read as the number. -/
theorem fixedDigits_padded {ε : Type} (short wrong : ε) {width n : Nat} (positive : 0 < width)
    (small : n < 10 ^ width) (rest : List Char) :
    fixedDigits short wrong width ((padded width n).toList ++ rest) 0 = .ok (n, rest) := by
  obtain ⟨length, digits, value⟩ := padded_digits positive small
  have read := fixedDigits_append short wrong rest digits 0
  rw [length] at read
  rw [read]
  exact congrArg (fun n => Except.ok (n, rest)) value

theorem length_le_utf8ByteSize : ∀ s : List Char, s.length ≤ (String.ofList s).utf8ByteSize
  | [] => Nat.zero_le _
  | c :: s => by
      have parts : String.ofList (c :: s) = String.singleton c ++ String.ofList s := by
        rw [← String.ofList_toList (s := String.singleton c ++ _)]
        simp
      rw [parts, String.utf8ByteSize_append, String.utf8ByteSize_singleton, List.length_cons,
        Nat.add_comm]
      exact Nat.add_le_add c.utf8Size_pos (length_le_utf8ByteSize s)

/-! ### Dates -/

/-- A date in wire form is read at the beginning of a text. -/
theorem scanDate_wire {d : Date} (proper : Calendar.isDate d.year d.month d.day = true)
    (rest : List Char) : scanDate (d.wire.toList ++ rest) = .ok (d, rest) := by
  simp only [Calendar.isDate, Bool.and_eq_true, decide_eq_true_eq] at proper
  obtain ⟨⟨⟨⟨⟨year, year'⟩, month⟩, month'⟩, day⟩, day'⟩ := proper
  have days : Calendar.daysInMonth d.year d.month < 100 := by
    unfold Calendar.daysInMonth
    split <;> first | decide | (split <;> decide)
  have written : d.wire.toList ++ rest = (padded 4 d.year).toList ++
      '-' :: ((padded 2 d.month).toList ++ '-' :: ((padded 2 d.day).toList ++ rest)) := by
    simp [Date.wire, Date.hyphened]
  have long : ¬(String.ofList (d.wire.toList ++ rest)).utf8ByteSize < dateSize := by
    have := length_le_utf8ByteSize (d.wire.toList ++ rest)
    have length : 10 ≤ (d.wire.toList ++ rest).length := by
      rw [written]
      simp only [List.length_append, List.length_cons]
      rw [(padded_digits (by decide) (by omega : d.year < 10 ^ 4)).1,
        (padded_digits (by decide) (by omega : d.month < 10 ^ 2)).1,
        (padded_digits (by decide) (by omega : d.day < 10 ^ 2)).1]
      omega
    rw [dateSize]
    omega
  have inYear : ¬(d.month = 0 ∨ 12 < d.month) := by omega
  have inMonth : ¬(d.day = 0 ∨ Calendar.daysInMonth d.year d.month < d.day) := by omega
  have year := fixedDigits_padded DateFault.short .year (by decide) (by omega : d.year < 10 ^ 4)
  have month := fixedDigits_padded DateFault.short .month (by decide) (by omega : d.month < 10 ^ 2)
  have day := fixedDigits_padded DateFault.short .day (by decide) (by omega : d.day < 10 ^ 2)
  rw [scanDate, if_neg long, written]
  simp [bind, Except.bind, year, month, day, expectChar, if_neg inYear, if_neg inMonth]

/-! ### Moments -/

/-- The characters of the fraction of a second. -/
theorem scanFraction_wire {n : Nat} (small : n < 1000000) {rest : List Char}
    (stops : ∀ c ∈ rest.head?, c.isDigit = false ∧ c ≠ '.' ∧ c ≠ ',') :
    scanFraction ((if n = 0 then "" else "." ++ padded 6 n).toList ++ rest) = some (n, rest) := by
  split
  · next zero =>
      subst zero
      cases rest with
      | nil => rfl
      | cons c rest => simp [scanFraction, stops c rfl]
  · next nonzero =>
      obtain ⟨length, digits, value⟩ := padded_digits (by decide) (by omega : n < 10 ^ 6)
      obtain ⟨front, back⟩ := Number.takeWhile_isDigit digits fun c hc => (stops c hc).1
      have nonempty : (padded 6 n).toList.isEmpty = false := by
        cases written : (padded 6 n).toList with
        | nil => simp [written] at length
        | cons => rfl
      have six : ((padded 6 n).toList ++ List.replicate 6 '0').take 6 = (padded 6 n).toList := by
        rw [List.take_append_of_le_length length.ge, List.take_of_length_le length.le]
      rw [String.toList_append, List.append_assoc]
      show scanFraction ('.' :: ((padded 6 n).toList ++ rest)) = some (n, rest)
      simp only [scanFraction, front, back, nonempty, six, value, beq_self_eq_true, Bool.true_or,
        Bool.false_eq_true, if_true, if_false]

/-- Hours and minutes after a sign are read as an offset. -/
theorem offset?_signed {hour minute : Nat} (onDay : hour < 24) (onHour : minute < 60)
    (negative : Bool) :
    offset? ((if negative then '-' else '+') :: ((padded 2 hour).toList ++
        ':' :: (padded 2 minute).toList)) =
      some (some (if negative then -(hour * 3600 + minute * 60 : Int)
        else hour * 3600 + minute * 60)) := by
  have readHour := fixedDigits_padded () () (by decide) (by omega : hour < 10 ^ 2)
  have readMinute := fixedDigits_padded () () (by decide) (by omega : minute < 10 ^ 2) []
  rw [List.append_nil] at readMinute
  cases negative <;>
    simp [offset?, readHour, readMinute, Except.toOption, Nat.not_le.mpr onDay,
      Nat.not_le.mpr onHour]

/-- An offset in wire form is read at the end of a text. -/
theorem offset?_wire {offset : Option Int}
    (proper : ∀ seconds, offset = some seconds → 60 ∣ seconds ∧ seconds.natAbs < 86400) :
    offset? ((offset.map wireOffset).getD "").toList = some offset := by
  cases offset with
  | none => rfl
  | some seconds =>
      obtain ⟨whole, day⟩ := proper seconds rfl
      rw [Option.map_some, Option.getD_some, wireOffset]
      split
      · next zero =>
          subst zero
          rfl
      · next nonzero =>
          generalize hminutes : seconds.natAbs / 60 = minutes
          have read := offset?_signed (by omega : minutes / 60 < 24) (by omega : minutes % 60 < 60)
            (decide (seconds < 0))
          have same : (if decide (seconds < 0) then
              -((minutes / 60 : Nat) * 3600 + (minutes % 60 : Nat) * 60 : Int)
              else (minutes / 60 : Nat) * 3600 + (minutes % 60 : Nat) * 60) = seconds := by
            by_cases negative : seconds < 0
            · simp only [negative, decide_true, if_true]
              omega
            · simp only [negative, decide_false, Bool.false_eq_true, if_false]
              omega
          rw [same] at read
          rw [← read]
          by_cases negative : seconds < 0 <;> simp [negative]

/-- What ends a moment in wire form is no digit and no mark of a fraction. -/
theorem stops_offset (offset : Option Int) :
    ∀ c ∈ ((offset.map wireOffset).getD "").toList.head?, c.isDigit = false ∧ c ≠ '.' ∧ c ≠ ',' := by
  cases offset with
  | none => exact nofun
  | some seconds =>
      rw [Option.map_some, Option.getD_some, wireOffset]
      split
      · rintro _ ⟨⟩
        decide
      · split <;>
        · simp only [String.toList_append]
          rintro _ ⟨⟩
          decide

/-- **A moment in wire form** is read as the moment. -/
theorem momentOfText?_wire {m : Moment} (proper : m.IsProper) :
    momentOfText? m.wire.toList = some m := by
  have date := scanDate_wire proper.date
  have hour := fixedDigits_padded () () (by decide) (by have := proper.hour; omega : m.hour < 10 ^ 2)
  have minute :=
    fixedDigits_padded () () (by decide) (by have := proper.minute; omega : m.minute < 10 ^ 2)
  have second :=
    fixedDigits_padded () () (by decide) (by have := proper.second; omega : m.second < 10 ^ 2)
  have fraction := scanFraction_wire proper.microsecond (stops_offset m.offset)
  have offset := offset?_wire proper.offset
  have written : m.wire.toList = m.date.wire.toList ++ 'T' :: ((padded 2 m.hour).toList ++
      ':' :: ((padded 2 m.minute).toList ++ ':' :: ((padded 2 m.second).toList ++
        ((if m.microsecond = 0 then "" else "." ++ padded 6 m.microsecond).toList ++
          ((m.offset.map wireOffset).getD "").toList)))) := by
    simp [Moment.wire, Moment.clock]
  have onClock : ¬((24 ≤ m.hour ∨ 60 ≤ m.minute) ∨ 60 ≤ m.second) := by
    have := proper.hour
    have := proper.minute
    have := proper.second
    omega
  rw [momentOfText?, written, date]
  simp [hour, minute, second, fraction, offset, Except.toOption, expectChar, scanSeconds,
    if_neg onClock]

theorem readMoment_wire {m : Moment} (proper : m.IsProper) :
    readMoment (.text m.wire) = .ok m := by
  have year : m.date.year ≠ 0 := by
    have := proper.date
    simp [Calendar.isDate] at this
    omega
  have found : momentOfText m.wire.toList = .ok m := by
    rw [momentOfText, momentOfText?_wire proper]
  show (momentOfText m.wire.toList).check inCalendar = .ok m
  rw [found, Checked.check_eq_ok]
  exact ⟨rfl, if_neg year⟩

end Schema

end Verdict
