import Verdict.Proofs.Json.Lexeme

/-!
# JSON: spelling

The grammar of JSON: which characters spell which value (`Spells`).  An integer has at most a given
number of digits in it, and at most so many lists and mappings stand one inside the other, since a
reader may have limits on both.

* `scanToken_of_writes`: a token is read where it is written, if what follows does not go on.
* `reaches_of_spells`: the machine comes from the characters of a value to what follows them, with
  the value complete.
* `read_of_spells`: so a text is read as the value that it spells, within the limits of the reader.
-/

namespace Verdict.Json

/-! ### The grammar -/

namespace Numeral

/-- The decimal that a numeral writes. -/
def decimal (n : Numeral) : Number.Decimal :=
  .ofParts n.whole (n.fraction.getD []) (n.exponent.getD 0)

/-- Without a fraction and an exponent a numeral is an integer. -/
def IsInteger (n : Numeral) : Prop := n.fraction = none ∧ n.exponent = none

instance (n : Numeral) : Decidable n.IsInteger :=
  inferInstanceAs (Decidable (_ ∧ _))

/-- The number of a numeral: an integer, or the floating-point number nearest to the decimal. -/
def value (n : Numeral) : Atom :=
  if n.IsInteger then
    .int (if n.negative then -(Number.natOfDigits n.whole : Int) else Number.natOfDigits n.whole)
  else .float (n.decimal.nearest n.negative)

end Numeral

/-- The characters spell the atom; an integer has at most so many digits. -/
inductive SpellsAtom (digits : Nat) : List Char → Atom → Prop where
  | null : SpellsAtom digits "null".toList .null
  | true : SpellsAtom digits "true".toList (.bool true)
  | false : SpellsAtom digits "false".toList (.bool false)
  | numeral {s : List Char} {n : Numeral} (h : WritesNumeral s n)
      (short : n.IsInteger → n.whole.length ≤ digits) : SpellsAtom digits s n.value
  | text {body : List Char} {units : List Nat} (h : WritesUnits body units) :
      SpellsAtom digits ('"' :: body ++ ['"']) (.text (String.ofList (charsOfUnits units)))

/-- The characters spell the name of a member, with blanks around it. -/
inductive SpellsName : List Char → String → Prop where
  | text {body : List Char} {units : List Nat} (h : WritesUnits body units) :
      SpellsName ('"' :: body ++ ['"']) (String.ofList (charsOfUnits units))
  | before {c : Char} {s : List Char} {name : String} (blank : isSpace c = true)
      (h : SpellsName s name) : SpellsName (c :: s) name
  | after {c : Char} {s : List Char} {name : String} (blank : isSpace c = true)
      (h : SpellsName s name) : SpellsName (s ++ [c]) name

mutual

/-- The characters spell the value, with blanks around it, by at most so many lists and mappings one
inside the other.  Of members of one name the last one counts, in the place of the first. -/
inductive Spells (digits : Nat) : (levels : Nat) → List Char → Value → Prop where
  | atom {levels : Nat} {s : List Char} {a : Atom} (h : SpellsAtom digits s a) :
      Spells digits levels s (.atom a)
  | emptyList {levels : Nat} {s : List Char} (blanks : ∀ c ∈ s, isSpace c = true) :
      Spells digits (levels + 1) ('[' :: s ++ [']']) (.list [])
  | list {levels : Nat} {s : List Char} {items : List Value}
      (h : SpellsItems digits levels s items) :
      Spells digits (levels + 1) ('[' :: s ++ [']']) (.list items)
  | emptyMapping {levels : Nat} {s : List Char} (blanks : ∀ c ∈ s, isSpace c = true) :
      Spells digits (levels + 1) ('\x7b' :: s ++ ['\x7d']) (.mapping [])
  | mapping {levels : Nat} {s : List Char} {members : List (Atom × Value)}
      (h : SpellsMembers digits levels s members) :
      Spells digits (levels + 1) ('\x7b' :: s ++ ['\x7d']) (.mapping (Table.ofPairs members))
  | before {levels : Nat} {c : Char} {s : List Char} {v : Value} (blank : isSpace c = true)
      (h : Spells digits levels s v) : Spells digits levels (c :: s) v
  | after {levels : Nat} {c : Char} {s : List Char} {v : Value} (blank : isSpace c = true)
      (h : Spells digits levels s v) : Spells digits levels (s ++ [c]) v

/-- The characters spell the items of a list, at least one, with commas between them. -/
inductive SpellsItems (digits : Nat) : (levels : Nat) → List Char → List Value → Prop where
  | last {levels : Nat} {s : List Char} {v : Value} (h : Spells digits levels s v) :
      SpellsItems digits levels s [v]
  | more {levels : Nat} {s t : List Char} {v : Value} {items : List Value}
      (h : Spells digits levels s v) (rest : SpellsItems digits levels t items) :
      SpellsItems digits levels (s ++ ',' :: t) (v :: items)

/-- The characters spell the members of a mapping, at least one, with commas between them. -/
inductive SpellsMembers (digits : Nat) :
    (levels : Nat) → List Char → List (Atom × Value) → Prop where
  | last {levels : Nat} {k s : List Char} {name : String} {v : Value} (named : SpellsName k name)
      (h : Spells digits levels s v) :
      SpellsMembers digits levels (k ++ ':' :: s) [(.text name, v)]
  | more {levels : Nat} {k s t : List Char} {name : String} {v : Value}
      {members : List (Atom × Value)} (named : SpellsName k name) (h : Spells digits levels s v)
      (rest : SpellsMembers digits levels t members) :
      SpellsMembers digits levels (k ++ ':' :: (s ++ ',' :: t)) ((.text name, v) :: members)

end

/-! ### Tokens where they are written -/

/-- The rest of a text does not go on with a number. -/
def Stops (rest : List Char) : Prop :=
  ∀ c ∈ rest.head?, c.isDigit = false ∧ c ≠ '.' ∧ c ≠ 'e' ∧ c ≠ 'E'

/-- The marks and blanks that stand behind a value. -/
def closers : List Char := [',', ':', ']', '\x7d', '"', ' ', '\t', '\n', '\r']

theorem stops_cons {c : Char} (h : c ∈ closers) (rest : List Char) : Stops (c :: rest) := by
  rintro d ⟨⟩
  have each : closers.all
      (fun c => decide (c.isDigit = false ∧ c ≠ '.' ∧ c ≠ 'e' ∧ c ≠ 'E')) = true := by decide
  exact of_decide_eq_true (List.all_eq_true.mp each c h)

theorem stops_blank {c : Char} (blank : isSpace c = true) (rest : List Char) :
    Stops (c :: rest) := by
  refine stops_cons ?_ rest
  simp only [isSpace, Bool.or_eq_true, beq_iff_eq] at blank
  rcases blank with ((rfl | rfl) | rfl) | rfl <;> decide

theorem splitDigits_append {ds rest : List Char} (digits : ∀ c ∈ ds, c.isDigit = true)
    (stops : ∀ c ∈ rest.head?, c.isDigit = false) : splitDigits (ds ++ rest) = (ds, rest) := by
  obtain ⟨front, back⟩ := Number.takeWhile_isDigit digits stops
  rw [splitDigits, front, back]

theorem scanWhole_append {whole rest : List Char} (digits : IsDigits whole)
    (leading : whole = ['0'] ∨ whole.head? ≠ some '0')
    (stops : ∀ c ∈ rest.head?, c.isDigit = false) :
    scanWhole (whole ++ rest) = some (whole, rest) := by
  rcases leading with rfl | noZero
  · rfl
  · obtain ⟨c, ds, rfl⟩ := List.exists_cons_of_ne_nil digits.1
    have other : c ≠ '0' := fun zero => noZero (congrArg some zero)
    rw [List.cons_append, scanWhole, if_pos (digits.2 c List.mem_cons_self), ← List.cons_append,
      splitDigits_append digits.2 stops]
    exact other

theorem scanFraction_append {fraction : Option (List Char)} {rest : List Char}
    (digits : ∀ ds, fraction = some ds → IsDigits ds)
    (stops : ∀ c ∈ rest.head?, c.isDigit = false ∧ c ≠ '.') :
    scanFraction (fractionChars fraction ++ rest) = (fraction, rest) := by
  cases fraction with
  | none =>
      cases rest with
      | nil => rfl
      | cons c rest =>
          rw [fractionChars, List.nil_append, scanFraction]
          exact fun _ _ point => (stops c rfl).2 (List.cons.inj point).1
  | some ds =>
      have isDigits := digits ds rfl
      obtain ⟨c, ds, rfl⟩ := List.exists_cons_of_ne_nil isDigits.1
      have split := splitDigits_append isDigits.2 fun c hc => (stops c hc).1
      rw [List.cons_append] at split
      rw [fractionChars, List.cons_append, List.cons_append, scanFraction,
        if_pos (isDigits.2 c List.mem_cons_self), split]

theorem scanExponent_append {suffix rest : List Char} {exponent : Option Int}
    (writes : WritesExponent suffix exponent)
    (stops : ∀ c ∈ rest.head?, c.isDigit = false ∧ c ≠ 'e' ∧ c ≠ 'E') :
    scanExponent (suffix ++ rest) = (exponent, rest) := by
  cases writes with
  | absent =>
      cases rest with
      | nil => rfl
      | cons c rest => simp [scanExponent, stops c rfl]
  | @present letter sign ds hletter hsign digits =>
      have marked : (letter == 'e' || letter == 'E') = true := by simpa using hletter
      have signed :
          Number.scanSign (sign ++ (ds ++ rest)) = (decide (sign = ['-']), ds ++ rest) := by
        simp only [List.mem_cons, List.not_mem_nil, or_false] at hsign
        rcases hsign with rfl | rfl | rfl
        · obtain ⟨c, ds, rfl⟩ := List.exists_cons_of_ne_nil digits.1
          exact Number.scanSign_of_isDigit (digits.2 c List.mem_cons_self) _
        · rfl
        · rfl
      have split := splitDigits_append digits.2 fun c hc => (stops c hc).1
      rw [List.cons_append, List.append_assoc, scanExponent, if_pos marked, signed]
      simp only [split]
      obtain ⟨c, ds, rfl⟩ := List.exists_cons_of_ne_nil digits.1
      simp

/-- A numeral is read where it is written. -/
theorem scanNumeral_append {written rest : List Char} {n : Numeral}
    (writes : WritesNumeral written n) (stops : Stops rest) :
    scanNumeral (written ++ rest) = some (n, rest) := by
  obtain ⟨suffix, writesExponent, rfl⟩ := writes.parts
  -- what follows each part begins the next one, or is the rest of the text
  have afterAll : ∀ c ∈ rest.head?, c.isDigit = false ∧ c ≠ 'e' ∧ c ≠ 'E' :=
    fun c hc => ⟨(stops c hc).1, (stops c hc).2.2⟩
  have afterFraction : ∀ c ∈ (suffix ++ rest).head?, c.isDigit = false ∧ c ≠ '.' := by
    generalize n.exponent = exponent at writesExponent
    cases writesExponent with
    | absent => exact fun c hc => ⟨(stops c hc).1, (stops c hc).2.1⟩
    | present hletter =>
        rintro c ⟨⟩
        rcases hletter with rfl | rfl <;> decide
  have afterWhole :
      ∀ c ∈ (fractionChars n.fraction ++ (suffix ++ rest)).head?, c.isDigit = false := by
    cases n.fraction with
    | none => exact fun c hc => (afterFraction c hc).1
    | some ds =>
        rintro c ⟨⟩
        rfl
  have unsigned : scanUnsigned n.negative
      (n.whole ++ (fractionChars n.fraction ++ (suffix ++ rest))) = some (n, rest) := by
    simp only [scanUnsigned, scanWhole_append writes.whole writes.leading afterWhole,
      scanFraction_append writes.fraction afterFraction,
      scanExponent_append writesExponent afterAll]
  simp only [List.append_assoc]
  cases negative : n.negative with
  | true =>
      rw [negative] at unsigned
      exact unsigned
  | false =>
      obtain ⟨c, ds, whole⟩ := List.exists_cons_of_ne_nil writes.whole.1
      have digit : c.isDigit = true := writes.whole.2 c (whole ▸ List.mem_cons_self)
      have noMinus : c ≠ '-' := Number.of_isDigit (· ≠ '-') (by decide) digit
      rw [negative] at unsigned
      rw [← unsigned]
      exact scanNumeral_unsigned (by simpa [whole] using noMinus)

/-- A number begins with a digit, or with a minus sign and a digit. -/
theorem WritesNumeral.begins {written : List Char} {n : Numeral} (h : WritesNumeral written n) :
    ∃ c tail, c.isDigit = true ∧ (written = c :: tail ∨ written = '-' :: c :: tail) := by
  obtain ⟨suffix, -, rfl⟩ := h.parts
  obtain ⟨c, ds, whole⟩ := List.exists_cons_of_ne_nil h.whole.1
  refine ⟨c, ds ++ fractionChars n.fraction ++ suffix,
    h.whole.2 c (whole ▸ List.mem_cons_self), ?_⟩
  cases n.negative <;> simp [whole]

/-- No word is at the front of a text that begins as a number does. -/
theorem find?_words_numeral {c : Char} (digit : c.isDigit = true) (sign tail : List Char)
    (short : sign.length ≤ 1) :
    (words.find? fun (word, _) => word.isPrefixOf (sign ++ c :: tail)) = none := by
  refine List.find?_eq_none.mpr fun p among front => ?_
  have letters : ∀ p ∈ words, 1 < p.1.length ∧ p.1.any Char.isDigit = false := by decide
  obtain ⟨long, noDigits⟩ := letters p among
  -- the word is long enough to have the digit among its characters
  have within : c ∈ p.1 := by
    have front : p.1 <+: sign ++ c :: tail := List.isPrefixOf_iff_prefix.mp front
    have index : sign.length < p.1.length := by omega
    have same : p.1[sign.length] = c := by
      rw [front.getElem index]
      simp
    exact same ▸ List.getElem_mem index
  exact List.any_eq_false.mp noDigits c within digit

/-- A numeral is the token at the front of a text where it is written. -/
theorem scanToken_numeral (size : Nat) {written rest : List Char} {n : Numeral}
    (writes : WritesNumeral written n) (stops : Stops rest) :
    scanToken size (written ++ rest) = (n.token, rest) := by
  have scanned := scanNumeral_append writes stops
  obtain ⟨c, tail, digit, rfl | rfl⟩ := writes.begins
  · have noMark : mark? c = none := Number.of_isDigit (mark? · = none) (by decide) digit
    have noQuote : c ≠ '"' := Number.of_isDigit (· ≠ '"') (by decide) digit
    have noWord := find?_words_numeral digit [] (tail ++ rest) (by decide)
    rw [List.nil_append] at noWord
    rw [List.cons_append] at scanned ⊢
    simp only [scanToken_of_ne_quote size noQuote, noMark, noWord, scanned]
  · have noMark : mark? '-' = none := rfl
    have noWord := find?_words_numeral digit ['-'] (tail ++ rest) (by decide)
    rw [List.singleton_append] at noWord
    rw [List.cons_append, List.cons_append] at scanned ⊢
    simp only [scanToken_of_ne_quote size (by decide : '-' ≠ '"'), noMark, noWord, scanned]

/-- The token of a number. -/
def Token.isNumber : Token → Bool
  | .scalar (.int _) | .scalar (.float _) | .broken false _ => true
  | _ => false

theorem Numeral.isNumber_token (n : Numeral) : n.token.isNumber = true := by
  unfold token
  split
  · split <;> rfl
  · rfl

/-- **A token is read where it is written**, if what follows a number does not go on with it. -/
theorem scanToken_of_writes (size : Nat) {written rest : List Char} {t : Token}
    (h : Writes written t) (stops : t.isNumber = true → Stops rest) :
    scanToken size (written ++ rest) = (t, rest) := by
  cases h with
  | @mark c t marked =>
      have noQuote : c ≠ '"' := by
        rintro rfl
        cases marked
      rw [List.singleton_append, scanToken_of_ne_quote size noQuote, marked]
  | text writes =>
      rw [List.append_assoc, List.cons_append, List.singleton_append, scanToken,
        scanString_of_writesUnits writes rest]
  | word among =>
      simp only [words, List.mem_cons, Prod.mk.injEq, List.not_mem_nil, or_false] at among
      rcases among with ⟨rfl, rfl⟩ | ⟨rfl, rfl⟩ | ⟨rfl, rfl⟩ | ⟨rfl, rfl⟩ | ⟨rfl, rfl⟩ | ⟨rfl, rfl⟩ <;>
        rfl
  | @numeral _ n writes => exact scanToken_numeral size writes (stops n.isNumber_token)

/-- No token begins with a blank. -/
theorem Writes.noBlank {written : List Char} {t : Token} (h : Writes written t) :
    ∀ c ∈ written.head?, isSpace c = false := by
  cases h with
  | @mark c t marked =>
      rintro _ ⟨⟩
      unfold mark? at marked
      split at marked <;> first | rfl | cases marked
  | text =>
      rintro _ ⟨⟩
      rfl
  | word among =>
      have each : ∀ p ∈ words, p.1.head?.any isSpace = false := by decide
      intro c first
      have noBlank := each _ among
      rw [first] at noBlank
      exact noBlank
  | numeral writes =>
      obtain ⟨c, tail, digit, rfl | rfl⟩ := writes.begins
      · rintro _ ⟨⟩
        exact Number.of_isDigit (isSpace · = false) (by decide) digit
      · rintro _ ⟨⟩
        rfl

/-! ### The machine at the characters of a value -/

namespace Machine

/-- The machine comes from the one place of a text of `size` characters to the other: what it ends
with is the same. -/
def Reaches (size : Nat) (m : Machine) (s : List Char) (m' : Machine) (rest : List Char) : Prop :=
  ∀ fuel, s.length ≤ fuel → ∃ fuel', rest.length ≤ fuel' ∧
    m.run size (tokensWithin size fuel s) = m'.run size (tokensWithin size fuel' rest)

variable {size : Nat} {m m' m'' : Machine} {s s' s'' : List Char}

theorem Reaches.refl (size : Nat) (m : Machine) (s : List Char) : Reaches size m s m s :=
  fun fuel enough => ⟨fuel, enough, rfl⟩

theorem Reaches.trans (h : Reaches size m s m' s') (h' : Reaches size m' s' m'' s'') :
    Reaches size m s m'' s'' := fun fuel enough => by
  obtain ⟨fuel', enough', same⟩ := h fuel enough
  obtain ⟨fuel'', enough'', same'⟩ := h' fuel' enough'
  exact ⟨fuel'', enough'', same.trans same'⟩

/-- Blanks are passed over. -/
theorem reaches_blank (size : Nat) (m : Machine) {c : Char} (blank : isSpace c = true)
    (s : List Char) : Reaches size m (c :: s) m s := fun fuel enough => by
  refine ⟨fuel, Nat.le_of_succ_le enough, ?_⟩
  cases fuel with
  | zero => rfl
  | succ fuel => rw [tokensWithin, tokensWithin, List.dropWhile_cons_of_pos blank]

theorem reaches_blanks (size : Nat) (m : Machine) {blanks : List Char}
    (h : ∀ c ∈ blanks, isSpace c = true) (s : List Char) :
    Reaches size m (blanks ++ s) m s := by
  induction blanks with
  | nil => exact .refl size m s
  | cons c blanks ih =>
      obtain ⟨blank, h⟩ := List.forall_mem_cons.mp h
      exact (reaches_blank size m blank _).trans (ih h)

/-- A token that fits is one step. -/
theorem reaches_token (size : Nat) {written rest : List Char} {t : Token} (h : Writes written t)
    (stops : t.isNumber = true → Stops rest) (advances : m.advance t = some m')
    (room : m'.excess? = none) : Reaches size m (written ++ rest) m' rest := fun fuel enough => by
  have scanned := scanToken_of_writes size h stops
  have noBlank := h.noBlank
  obtain ⟨c, tail, rfl⟩ := List.exists_cons_of_ne_nil h.ne_nil
  rw [List.cons_append] at scanned enough ⊢
  obtain ⟨fuel, rfl⟩ := Nat.exists_eq_add_of_le' (Nat.succ_le_of_lt (Nat.lt_of_lt_of_le
    (Nat.succ_pos _) enough))
  refine ⟨fuel, ?_, ?_⟩
  · simp only [List.length_cons, List.length_append] at enough
    omega
  · rw [tokensWithin, List.dropWhile_cons_of_neg (by simp [noBlank c rfl])]
    simp only [scanned, run, advances, room]

@[simp] theorem excess?_complete (frames : List Frame) (v : Value) :
    (complete frames v).excess? = none := by
  cases frames with
  | nil => rfl
  | cons frame outer => cases frame <;> rfl

/-- The machine takes a value inside the given containers. -/
def Begins (m : Machine) (frames : List Frame) : Prop :=
  ∀ t m', beginValue frames t = some m' → m.advance t = some m'

theorem begins_value (frames : List Frame) : Begins ⟨frames, .value⟩ frames :=
  fun _ _ begins => begins

theorem begins_firstItem (frames : List Frame) :
    Begins ⟨frames, .firstItem⟩ (.items [] :: frames) := by
  intro t m' begins
  cases t with
  | closeList => cases begins
  | _ => exact begins

/-- A token that is a value of its own. -/
theorem exists_token {s : List Char} {a : Atom} (h : SpellsAtom Number.maxIntegerDigits s a) :
    ∃ t, Writes s t ∧ ∀ frames, beginValue frames t = some (complete frames (.atom a)) := by
  cases h with
  | null => exact ⟨.scalar .null, .word (by simp [words]), fun _ => rfl⟩
  | true => exact ⟨.scalar (.bool true), .word (by simp [words]), fun _ => rfl⟩
  | false => exact ⟨.scalar (.bool false), .word (by simp [words]), fun _ => rfl⟩
  | text writes => exact ⟨_, .text writes, fun _ => rfl⟩
  | @numeral _ n writes short =>
      refine ⟨_, .numeral writes, fun frames => ?_⟩
      obtain ⟨negative, whole, fraction, exponent⟩ := n
      cases fraction with
      | some ds => simp [Numeral.token, Numeral.value, Numeral.IsInteger, beginValue, Numeral.decimal]
      | none =>
          cases exponent with
          | some e =>
              simp [Numeral.token, Numeral.value, Numeral.IsInteger, beginValue, Numeral.decimal]
          | none =>
              have short := Nat.not_lt.mpr (short ⟨rfl, rfl⟩)
              simp only [Numeral.token, if_neg short]
              rfl

/-- A mark is one step. -/
theorem reaches_mark {c : Char} {t : Token} (marked : mark? c = some t)
    (advances : m.advance t = some m') (room : m'.excess? = none) (rest : List Char) :
    Reaches size m (c :: rest) m' rest := by
  refine reaches_token size (.mark marked) (fun number => ?_) advances room
  unfold mark? at marked
  split at marked <;> cases marked <;> cases number

/-- The name of a member, with blanks around it, is one step. -/
theorem reaches_name {k : List Char} {name : String} (h : SpellsName k name)
    (advances : m.advance (.text name) = some m') (room : m'.excess? = none) (rest : List Char) :
    Reaches size m (k ++ rest) m' rest := by
  induction h generalizing rest with
  | text writes => exact reaches_token size (.text writes) nofun advances room
  | before blank _ ih => exact (reaches_blank size m blank _).trans (ih advances rest)
  | @after c _ _ blank _ ih =>
      rw [List.append_assoc, List.singleton_append]
      exact (ih advances (c :: rest)).trans (reaches_blank size m' blank rest)

/-- A list comes to what follows it, if the machine comes there from after its opening bracket. -/
theorem reaches_list {frames : List Frame} (begins : m.Begins frames)
    (room : frames.length < nestingLimit) {inner rest : List Char} {v : Value}
    (inside : Reaches size ⟨frames, .firstItem⟩ (inner ++ ']' :: rest) (complete frames v) rest) :
    Reaches size m ('[' :: inner ++ [']'] ++ rest) (complete frames v) rest := by
  have free : excess? ⟨frames, .firstItem⟩ = none := if_neg (Nat.not_le.mpr room)
  simpa using (reaches_mark rfl (begins .openList _ rfl) free _).trans inside

/-- A mapping comes to what follows it, if the machine comes there from after its opening brace. -/
theorem reaches_mapping {frames : List Frame} (begins : m.Begins frames)
    (room : frames.length < nestingLimit) {inner rest : List Char} {v : Value}
    (inside : Reaches size ⟨frames, .firstName⟩ (inner ++ '\x7d' :: rest) (complete frames v) rest) :
    Reaches size m ('\x7b' :: inner ++ ['\x7d'] ++ rest) (complete frames v) rest := by
  have free : excess? ⟨frames, .firstName⟩ = none := if_neg (Nat.not_le.mpr room)
  simpa using (reaches_mark rfl (begins .openMapping _ rfl) free _).trans inside

/-- The machine takes the name of a member with the given pairs before it. -/
def BeginsName (m : Machine) (frames : List Frame) (pairs : List (Atom × Value)) : Prop :=
  ∀ name, m.advance (.text name) = some ⟨frames, .colon pairs name⟩

mutual

/-- **The machine takes a value**: from its characters it comes to what follows them, with the value
complete in the containers around it. -/
theorem reaches_of_spells {levels : Nat} {s : List Char} {v : Value}
    (h : Spells Number.maxIntegerDigits levels s v) : ∀ ⦃m : Machine⦄ ⦃frames : List Frame⦄,
    m.Begins frames → frames.length + levels ≤ nestingLimit → ∀ ⦃rest : List Char⦄, Stops rest →
    Reaches size m (s ++ rest) (complete frames v) rest :=
  match levels, s, v, h with
  | _, _, _, .atom h => by
      intro m frames begins _ rest stops
      obtain ⟨t, writes, takes⟩ := exists_token h
      exact reaches_token size writes (fun _ => stops) (begins t _ (takes frames))
        (excess?_complete ..)
  | _, _, _, .emptyList blanks => by
      intro m frames begins room rest _
      refine reaches_list begins (by omega) ((reaches_blanks size _ blanks _).trans ?_)
      exact reaches_mark (t := .closeList) rfl rfl (excess?_complete ..) rest
  | _, _, _, .list items => by
      intro m frames begins room rest _
      refine reaches_list begins (by omega) ?_
      exact reaches_of_spellsItems items (begins_firstItem frames) (by omega) rest
  | _, _, _, .emptyMapping blanks => by
      intro m frames begins room rest _
      refine reaches_mapping begins (by omega) ((reaches_blanks size _ blanks _).trans ?_)
      exact reaches_mark (t := .closeMapping) rfl rfl (excess?_complete ..) rest
  | _, _, _, .mapping members => by
      intro m frames begins room rest _
      refine reaches_mapping begins (by omega) ?_
      exact reaches_of_spellsMembers members (fun _ => rfl) (by omega) rest
  | _, _, _, .before blank h => fun _ _ begins room _ stops =>
      (reaches_blank size _ blank _).trans (reaches_of_spells h begins room stops)
  | _, _, _, .after blank h => by
      intro m frames begins room rest stops
      rw [List.append_assoc, List.singleton_append]
      exact (reaches_of_spells h begins room (stops_blank blank rest)).trans
        (reaches_blank size _ blank rest)

/-- From the items of a list it comes to the end of the list. -/
theorem reaches_of_spellsItems {levels : Nat} {s : List Char} {items : List Value}
    (h : SpellsItems Number.maxIntegerDigits levels s items) : ∀ ⦃m : Machine⦄
    ⦃frames : List Frame⦄ ⦃reversed : List Value⦄, m.Begins (.items reversed :: frames) →
    frames.length + 1 + levels ≤ nestingLimit → ∀ rest : List Char,
    Reaches size m (s ++ ']' :: rest) (complete frames (.list (reversed.reverse ++ items))) rest :=
  match levels, s, items, h with
  | _, _, _, @SpellsItems.last _ _ _ v h => by
      intro m frames reversed begins room rest
      refine (reaches_of_spells h begins room (stops_cons (by decide) rest)).trans ?_
      refine reaches_mark (t := .closeList) rfl ?_ (excess?_complete ..) rest
      simp [complete, advance]
  | _, _, _, @SpellsItems.more _ _ _ _ v _ h more => by
      intro m frames reversed begins room rest
      have later := reaches_of_spellsItems more (begins_value (.items (v :: reversed) :: frames))
        room rest
      rw [List.reverse_cons, List.append_assoc] at later
      rw [List.append_assoc, List.cons_append]
      refine (reaches_of_spells h begins room (stops_cons (by decide) _)).trans ?_
      exact (reaches_mark (t := .comma) rfl rfl rfl _).trans later

/-- From the members of a mapping it comes to the end of the mapping. -/
theorem reaches_of_spellsMembers {levels : Nat} {s : List Char} {members : List (Atom × Value)}
    (h : SpellsMembers Number.maxIntegerDigits levels s members) : ∀ ⦃m : Machine⦄
    ⦃frames : List Frame⦄ ⦃pairs : List (Atom × Value)⦄, m.BeginsName frames pairs →
    frames.length + 1 + levels ≤ nestingLimit → ∀ rest : List Char,
    Reaches size m (s ++ '\x7d' :: rest)
      (complete frames (.mapping (Table.insertAll pairs members))) rest :=
  match levels, s, members, h with
  | _, _, _, @SpellsMembers.last _ _ _ _ name v named h => by
      intro m frames pairs begins room rest
      rw [List.append_assoc, List.cons_append]
      refine (reaches_name named (begins name) rfl _).trans ?_
      refine (reaches_mark (t := .colon) rfl rfl rfl _).trans ?_
      refine (reaches_of_spells h (begins_value (.members pairs name :: frames)) room
        (stops_cons (by decide) rest)).trans ?_
      exact reaches_mark (t := .closeMapping) rfl rfl (excess?_complete ..) rest
  | _, _, _, @SpellsMembers.more _ _ _ _ _ name v _ named h more => by
      intro m frames pairs begins room rest
      rw [List.append_assoc, List.cons_append, List.append_assoc, List.cons_append]
      refine (reaches_name named (begins name) rfl _).trans ?_
      refine (reaches_mark (t := .colon) rfl rfl rfl _).trans ?_
      refine (reaches_of_spells h (begins_value (.members pairs name :: frames)) room
        (stops_cons (by decide) _)).trans ?_
      refine (reaches_mark (t := .comma) rfl rfl rfl _).trans ?_
      exact reaches_of_spellsMembers more (fun _ => rfl) room rest

end

end Machine

/-- The mark of byte order begins no value. -/
theorem Spells.noMark {digits levels : Nat} {s : List Char} {v : Value}
    (h : Spells digits levels s v) : s.head? ≠ some '\uFEFF' :=
  match levels, s, v, h with
  | _, _, _, .atom h => by
      cases h with
      | numeral writes =>
          obtain ⟨c, tail, digit, rfl | rfl⟩ := writes.begins
          · exact Number.of_isDigit (fun c => some c ≠ some '\uFEFF') (by decide) digit
          · exact fun same => nomatch same
      | _ => exact fun same => nomatch same
  | _, _, _, .emptyList _ | _, _, _, .list _ | _, _, _, .emptyMapping _ | _, _, _, .mapping _ =>
      fun same => nomatch same
  | _, _, _, .before blank _ => by
      rintro ⟨⟩
      cases blank
  | _, _, _, .after (s := s) blank h => by
      have before := h.noMark
      cases s with
      | nil =>
          rintro ⟨⟩
          cases blank
      | cons c s => exact before

/-- **A text is read as the value that it spells**, if its integers and its nesting are within the
limits of the reader. -/
theorem read_of_spells {levels : Nat} {s : List Char} {v : Value}
    (h : Spells Number.maxIntegerDigits levels s v) (room : levels ≤ Machine.nestingLimit) :
    read s = .ok v := by
  have readText : readText s = .ok v := by
    have stops : Stops [] := nofun
    have taken : Machine.Reaches s.length ⟨[], .value⟩ (s ++ []) (Machine.complete [] v) [] :=
      Machine.reaches_of_spells h (Machine.begins_value []) (by simpa using room) stops
    rw [List.append_nil] at taken
    obtain ⟨fuel, -, same⟩ := taken s.length le_rfl
    rw [readText, tokens, show Machine.start = ⟨[], .value⟩ from rfl, same]
    cases fuel <;> rfl
  unfold read
  split
  · exact absurd rfl h.noMark
  · exact readText

end Verdict.Json
