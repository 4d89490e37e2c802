import Verdict.Proofs.Log.Authorization
import Verdict.Proofs.Log.Secret

/-!
# Log: redaction leaves no secret

Each rule rewrites what the ones before it left.  No rule puts a secret of another into a text, the
first three leave none of their own, and the last one replaces its own mark by itself.

* `redactChars_redactChars`: so a redacted text stays as it is when it is redacted again.
* `redact_leaves_no_secret`: a redacted value stays as it is, and none of its texts has a token with
  a prefix, a token under the key `token`, or a bearer's token.
-/

namespace Verdict.Redaction

/-! ### Tokens under a key, and bearers -/

/-- The key `token` with its sign, blanks and an opening quotation mark, and at least 20 letters,
digits, underscores and hyphens. -/
def IsAssignedToken (t : List Char) : Prop :=
  ∃ sign blanks quote secret, t = "token".toList ++ sign :: (blanks ++ (quote ++ secret)) ∧
    (sign = '=' ∨ sign = ':') ∧ (∀ c ∈ blanks, Text.isBlank c = true) ∧
    quote ∈ [[], ['\''], ['"']] ∧ 20 ≤ secret.length ∧ ∀ c ∈ secret, isTokenChar c = true

/-- The word for bearers in either case, blanks, and a character of a bearer's token: a letter, a
digit, a dot, an underscore or a hyphen. -/
def IsBearer (t : List Char) : Prop :=
  ∃ word blanks c, t = word ++ (blanks ++ [c]) ∧ word.map Char.toLower = "bearer".toList ∧
    blanks ≠ [] ∧ (∀ b ∈ blanks, Text.isBlank b = true) ∧ (isTokenChar c || c == '.') = true

theorem not_isBlank_of_isTokenChar {c : Char} (h : (isTokenChar c || c == '.') = true) :
    Text.isBlank c = false :=
  not_isBlank_of_every (p := fun c => isTokenChar c || c == '.') (by decide) h

theorem not_isQuote_of_isTokenChar {c : Char} (h : isTokenChar c = true) : isQuote c = false := by
  by_contra quote
  obtain rfl | rfl : c = '\'' ∨ c = '"' := by simpa [isQuote, or_iff_not_imp_left] using quote
  · exact absurd h (by decide)
  · exact absurd h (by decide)

theorem IsPrefixedToken.isSecret {t : List Char} (token : IsPrefixedToken t) :
    prefixedToken.IsSecret t := by
  obtain ⟨kind, listed, secret, rfl, long, all⟩ := token
  exact ⟨['g', 'h', kind, '_'], secret, rfl,
    scanAll_prefixedToken_iff.mpr ⟨rfl, kind, listed, rfl⟩, long, all⟩

theorem IsAssignedToken.isSecret {t : List Char} (token : IsAssignedToken t) :
    assignedToken.IsSecret t := by
  obtain ⟨sign, blanks, quote, secret, rfl, signed, blank, quoted, long, all⟩ := token
  have lead : assignedToken.lead =
      (tests assignedToken.lead).map Part.one ++ [Part.blanks 0, Part.maybe isQuote] := rfl
  obtain ⟨c, secret, rfl⟩ := List.exists_cons_of_length_pos (Nat.lt_of_lt_of_le (by decide) long)
  have first : isTokenChar c = true := all c List.mem_cons_self
  have noBlank := not_isBlank_of_isTokenChar (c := c) (by simp [first])
  have noQuote := not_isQuote_of_isTokenChar first
  refine ⟨"token".toList ++ [sign] ++ (blanks ++ quote), c :: secret, by simp, ?_, long, all⟩
  have word : Fits (tests assignedToken.lead) ("token".toList ++ [sign]) := by
    rcases signed with rfl | rfl <;> decide
  have closing : scanAll [Part.maybe isQuote] (quote ++ c :: secret) =
      some (quote, c :: secret) := by
    simp only [List.mem_cons, List.not_mem_nil, or_false] at quoted
    rcases quoted with rfl | rfl | rfl
    · simp [scanAll, Part.scan, noQuote]
    · rfl
    · rfl
  have between : scanAll [Part.blanks 0, Part.maybe isQuote] (blanks ++ (quote ++ c :: secret)) =
      some (blanks ++ quote, c :: secret) := by
    refine scanAll_cons_iff.mpr ⟨blanks, _, quote, Part.scan_blanks_iff.mpr
      ⟨rfl, Nat.zero_le _, blank, ?_⟩, closing, rfl⟩
    simp only [List.mem_cons, List.not_mem_nil, or_false] at quoted
    rcases quoted with rfl | rfl | rfl
    · simpa using noBlank
    · rintro _ ⟨⟩
      decide
    · rintro _ ⟨⟩
      decide
  rw [lead]
  exact scanAll_append_iff.mpr ⟨"token".toList ++ [sign], _, blanks ++ quote,
    scanAll_ones_iff.mpr ⟨by simp, word⟩, between, rfl⟩

theorem IsBearer.isSecret {t : List Char} (bearer : IsBearer t) : bearerToken.IsSecret t := by
  obtain ⟨word, blanks, c, rfl, named, some, blank, secret⟩ := bearer
  have noBlank := not_isBlank_of_isTokenChar secret
  have between : scanAll [Part.blanks 1] (blanks ++ [c]) = Option.some (blanks, [c]) := by
    refine scanAll_cons_iff.mpr ⟨blanks, [c], [], Part.scan_blanks_iff.mpr
      ⟨rfl, List.length_pos_iff.mpr some, blank, by simpa using noBlank⟩, rfl, by simp⟩
  have all : ∀ d ∈ [c], bearerToken.secret d = true := by
    simp only [Bool.or_eq_true, beq_iff_eq] at secret
    simpa [bearerToken] using Or.inl secret
  refine ⟨word ++ blanks, [c], by simp, ?_, Nat.le_refl 1, all⟩
  rw [bearerToken_lead]
  exact scanAll_append_iff.mpr ⟨word, _, blanks,
    scanAll_ones_iff.mpr ⟨rfl, fits_bearerToken_iff.mpr named⟩, between, rfl⟩

/-! ### What the rules leave -/

theorem strict_prefixedToken : prefixedToken.Strict (· == 'g') := by
  refine ⟨Rule.wellFormed_of_mem (by simp [rules]), by decide, by decide, _, rfl, ?_⟩
  intro c fit
  obtain rfl : c = 'g' := by simpa using fit
  decide

theorem strict_assignedToken : assignedToken.Strict (· == 't') := by
  refine ⟨Rule.wellFormed_of_mem (by simp [rules]), by decide, by decide, _, rfl, ?_⟩
  intro c fit
  obtain rfl : c = 't' := by simpa using fit
  decide

theorem strict_bearerToken : bearerToken.Strict (fun c => c.toLower == 'b') := by
  have lead : bearerToken.lead = Part.one (fun c => c.toLower == 'b') ::
      (("earer".toList.map fun e => Part.one fun c => c.toLower == e) ++ [Part.blanks 1]) := by
    simp [bearerToken, letters]
  refine ⟨Rule.wellFormed_of_mem (by simp [rules]), by decide, by decide, _, lead, ?_⟩
  intro c fit part hpart
  rcases List.mem_append.mp hpart with hpart | hpart
  · obtain ⟨e, he, rfl⟩ := List.mem_map.mp hpart
    have others : "earer".toList.all (· != 'b') = true := by decide
    have other : e ≠ 'b' := by simpa using List.all_eq_true.mp others e he
    simpa [Part.takes, beq_iff_eq.mp fit] using other.symm
  · obtain rfl := List.mem_singleton.mp hpart
    exact not_isBlank_of_every (p := fun c => c.toLower == 'b') (by decide) fit

/-- Nothing is left for the first three rules. -/
theorem quiet_redactChars (s : List Char) : prefixedToken.Quiet (redactChars s) [] ∧
    assignedToken.Quiet (redactChars s) [] ∧ bearerToken.Quiet (redactChars s) [] := by
  refine ⟨?_, ?_, ?_⟩
  · exact strict_prefixedToken.quiet_foldl [assignedToken, bearerToken, authorization]
      (by simp [rules]) (by decide) s
  · exact strict_assignedToken.quiet_foldl [bearerToken, authorization]
      (by simp [rules]) (by decide) (prefixedToken.apply s)
  · exact strict_bearerToken.quiet_foldl [authorization]
      (by simp [rules]) (by decide) (assignedToken.apply (prefixedToken.apply s))

theorem authorization_apply_apply (s : List Char) :
    authorization.apply (authorization.apply s) = authorization.apply s := by
  have lead : authorization.lead =
      (tests authorization.lead).map Part.one ++ [Part.blanks 0, Part.maybe isQuote] := rfl
  refine Rule.apply_apply (Rule.wellFormed_of_mem (by simp [rules])) rfl rfl (by decide) ?_ ?_ s
  · intro c secret part hpart
    obtain ⟨noBlank, noQuote⟩ : Text.isBlank c = false ∧ isQuote c = false := by
      simpa [authorization] using secret
    rw [lead, List.mem_append, List.mem_map, List.mem_pair] at hpart
    rcases hpart with ⟨p, -, rfl⟩ | rfl | rfl
    · rfl
    · exact noBlank
    · exact noQuote
  · exact List.all_eq_true.mp (by decide)

/-- **Redaction leaves nothing to redact**: a redacted text stays as it is. -/
theorem redactChars_redactChars (s : List Char) :
    redactChars (redactChars s) = redactChars s := by
  obtain ⟨first, second, third⟩ := quiet_redactChars s
  calc redactChars (redactChars s)
    _ = authorization.apply (bearerToken.apply (assignedToken.apply
          (prefixedToken.apply (redactChars s)))) := rfl
    _ = authorization.apply (redactChars s) := by
        rw [Rule.apply_eq_self first, Rule.apply_eq_self second, Rule.apply_eq_self third]
    _ = redactChars s := authorization_apply_apply _

/-! ### Values -/

mutual

/-- The texts at the places of values, in lists and in the entries of mappings. -/
def textsWithin : Value → List String
  | .text s => [s]
  | .list items => textsWithinItems items
  | .mapping pairs => textsWithinPairs pairs
  | _ => []

/-- The texts in items. -/
def textsWithinItems : List Value → List String
  | [] => []
  | v :: rest => textsWithin v ++ textsWithinItems rest

/-- The texts in the entries of pairs. -/
def textsWithinPairs : List (Atom × Value) → List String
  | [] => []
  | (_, v) :: rest => textsWithin v ++ textsWithinPairs rest

end

mutual

theorem redact_redact : ∀ v : Value, redact (redact v) = redact v
  | .text s => by
      simp only [redact, String.toList_ofList, redactChars_redactChars]
  | .list items => by simp only [redact, redactItems_redactItems items]
  | .mapping pairs => by simp only [redact, redactPairs_redactPairs pairs]
  | .null | .bool _ | .int _ | .float _ | .atom (.date _) | .atom (.moment _) | .atom (.bytes _)
  | .tuple _ | .set _ | .record _ _ | .cycle _ _ => rfl

theorem redactItems_redactItems : ∀ items : List Value,
    redactItems (redactItems items) = redactItems items
  | [] => rfl
  | v :: rest => by simp only [redactItems, redact_redact v, redactItems_redactItems rest]

theorem redactPairs_redactPairs : ∀ pairs : List (Atom × Value),
    redactPairs (redactPairs pairs) = redactPairs pairs
  | [] => rfl
  | (k, v) :: rest => by simp only [redactPairs, redact_redact v, redactPairs_redactPairs rest]

end

mutual

/-- The texts of a redacted value are redacted texts. -/
theorem exists_of_mem_textsWithin : ∀ {v : Value} {s : String}, s ∈ textsWithin (redact v) →
    ∃ t : String, s.toList = redactChars t.toList
  | .text t, s, h => ⟨t, by
      obtain rfl := List.mem_singleton.mp h
      rw [String.toList_ofList]⟩
  | .list items, s, h => exists_of_mem_textsWithinItems h
  | .mapping pairs, s, h => exists_of_mem_textsWithinPairs h
  | .null, _, h | .bool _, _, h | .int _, _, h | .float _, _, h | .atom (.date _), _, h
  | .atom (.moment _), _, h | .atom (.bytes _), _, h | .tuple _, _, h | .set _, _, h
  | .record _ _, _, h | .cycle _ _, _, h => nomatch h

theorem exists_of_mem_textsWithinItems : ∀ {items : List Value} {s : String},
    s ∈ textsWithinItems (redactItems items) → ∃ t : String, s.toList = redactChars t.toList
  | [], _, h => nomatch h
  | _ :: _, _, h => (List.mem_append.mp h).elim exists_of_mem_textsWithin
      exists_of_mem_textsWithinItems

theorem exists_of_mem_textsWithinPairs : ∀ {pairs : List (Atom × Value)} {s : String},
    s ∈ textsWithinPairs (redactPairs pairs) → ∃ t : String, s.toList = redactChars t.toList
  | [], _, h => nomatch h
  | (_, _) :: _, _, h => (List.mem_append.mp h).elim exists_of_mem_textsWithin
      exists_of_mem_textsWithinPairs

end

/-- **Redaction leaves no secret.**  A redacted value stays as it is when it is redacted again, and
none of its texts has a token with a prefix, a token under the key `token`, or a bearer's token. -/
theorem redact_leaves_no_secret (v : Value) :
    redact (redact v) = redact v ∧
      ∀ s ∈ textsWithin (redact v), ∀ word, word <:+: s.toList →
        ¬ IsPrefixedToken word ∧ ¬ IsAssignedToken word ∧ ¬ IsBearer word := by
  refine ⟨redact_redact v, fun s hs word inside => ?_⟩
  obtain ⟨t, redacted⟩ := exists_of_mem_textsWithin hs
  rw [redacted] at inside
  obtain ⟨first, second, third⟩ := quiet_redactChars t.toList
  rw [Rule.quiet_iff (by decide)] at first second third
  exact ⟨fun token => first word token.isSecret inside,
    fun token => second word token.isSecret inside, fun bearer => third word bearer.isSecret inside⟩

end Verdict.Redaction
