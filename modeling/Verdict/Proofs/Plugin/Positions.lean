import Mathlib.Data.List.Forall2
import Verdict.Plugin.Filesystem
import Verdict.Proofs.Pattern.Matches

/-!
# Plugins: the positions of matches

A report on the target lists each match of a valid pattern in a line of the content.  A match is
known by its line, by the place of its pattern among the valid ones, and by the columns between
which it lies (`Hit`).

* `pairwise_hits`: by line, then by pattern, then from left to right.
* `forall₂_hits`: what is listed for a match lies where the match does.
* `fileAnalysis_locates`: so does what a report says of it, and nothing is left out.  The lines of a
  content are the parts between line feeds, but an empty content has none.

A match is reported with a snippet, which is either its whole line or a stretch of it, with an
ellipsis at each end where something is left out (`Shows`).

* `snippet_whole`: a length that is not positive, or that the line does not exceed, gives the line.
* `snippet_window`: any other length gives a stretch that holds the match, and that exceeds it by no
  more than the length.
-/

namespace Verdict

/-- The value that a path of keys leads to in a mapping of mappings. -/
def Value.at? (v : Value) (keys : List String) : Option Value :=
  keys.foldlM Value.field? v

/-- A pattern keeps the text that it was read from. -/
theorem Pattern.source_of_compile {source : String} {flags : Flags} {p : Pattern}
    (h : compile source flags = .ok p) : p.source = source := by
  simp only [compile, bind, Except.bind] at h
  split at h
  · cases h
  · split at h
    · cases h
    · split at h
      · cases h
      · obtain rfl := Except.ok.inj h
        rfl

namespace Plugin

/-! ### Hits -/

/-- Where a match is: its line and pattern by number, and the columns between which it lies, all
counted from zero. -/
structure Hit where
  line : Nat
  rank : Nat
  start : Nat
  stop : Nat

/-- One hit comes before another: by line, then by pattern, then from left to right without
overlap. -/
def Hit.Before (a b : Hit) : Prop :=
  a.line < b.line ∨ a.line = b.line ∧ (a.rank < b.rank ∨ a.rank = b.rank ∧
    a.stop ≤ b.start ∧ (a.start = b.start → a.stop ≠ b.stop))

theorem Hit.Before.ne {a b : Hit} : a.Before b → a ≠ b := by
  rintro before rfl
  rcases before with less | ⟨-, less | ⟨-, -, other⟩⟩
  · exact Nat.lt_irrefl _ less
  · exact Nat.lt_irrefl _ less
  · exact other rfl rfl

/-- A hit of patterns in lines is a match of one of them in one of these.  Each pattern stands with
its text. -/
def IsHit (ps : List (String × Pattern)) (lines : List (List Char)) (h : Hit) : Prop :=
  ∃ line source p, lines[h.line]? = some line ∧ ps[h.rank]? = some (source, p) ∧
    ∃ m ∈ p.allMatches line.toArray, m.start = h.start ∧ m.stop = h.stop

/-- The hits of a pattern in a line, both with their numbers. -/
def hitsOf (line : List Char × Nat) (p : (String × Pattern) × Nat) : List Hit :=
  (p.1.2.allMatches line.1.toArray).map fun m => ⟨line.2, p.2, m.start, m.stop⟩

/-- The hits of patterns in lines. -/
def hits (ps : List (String × Pattern)) (lines : List (List Char)) : List Hit :=
  lines.zipIdx.flatMap fun line => ps.zipIdx.flatMap (hitsOf line)

section Hits

variable {ps : List (String × Pattern)} {lines : List (List Char)} {h : Hit}

theorem numbers_of_mem_hitsOf {line : List Char × Nat} {p : (String × Pattern) × Nat}
    (among : h ∈ hitsOf line p) : h.line = line.2 ∧ h.rank = p.2 := by
  obtain ⟨m, -, rfl⟩ := List.mem_map.mp among
  exact ⟨rfl, rfl⟩

theorem mem_hits : h ∈ hits ps lines ↔ IsHit ps lines h := by
  simp only [hits, hitsOf, IsHit, List.mem_flatMap, List.mem_map, Prod.exists,
    List.mk_mem_zipIdx_iff_getElem?]
  constructor
  · rintro ⟨line, i, there, source, p, k, valid, m, found, rfl⟩
    exact ⟨line, source, p, there, valid, m, found, rfl, rfl⟩
  · rintro ⟨line, source, p, there, valid, m, found, starts, stops⟩
    exact ⟨line, _, there, source, p, _, valid, m, found, by rw [starts, stops]⟩

/-- A list put together from numbered parts is in order if each part is, and if what is in one part
comes before what is in a later one. -/
theorem pairwise_flatMap_zipIdx {α β : Type} {R : β → β → Prop} {f : α × Nat → List β}
    (each : ∀ x, (f x).Pairwise R) (across : ∀ x y, x.2 < y.2 → ∀ a ∈ f x, ∀ b ∈ f y, R a b)
    (l : List α) : (l.zipIdx.flatMap f).Pairwise R := by
  have numbered : l.zipIdx.Pairwise fun x y => x.2 < y.2 := by
    rw [← List.pairwise_map (f := Prod.snd) (R := (· < ·)), List.zipIdx_map_snd]
    exact List.pairwise_lt_range' _
  exact List.pairwise_flatMap.mpr ⟨fun x _ => each x, numbered.imp fun less => across _ _ less⟩

theorem pairwise_hits (ps : List (String × Pattern)) (lines : List (List Char)) :
    (hits ps lines).Pairwise Hit.Before := by
  refine pairwise_flatMap_zipIdx (fun line => pairwise_flatMap_zipIdx (fun p => ?_) ?_ ps) ?_ lines
  · refine List.pairwise_map.mpr ((p.1.2.allMatches_pairwise _).imp fun before => ?_)
    exact .inr ⟨rfl, .inr ⟨rfl, before⟩⟩
  · intro p q less a among b amongst
    obtain ⟨aLine, aRank⟩ := numbers_of_mem_hitsOf among
    obtain ⟨bLine, bRank⟩ := numbers_of_mem_hitsOf amongst
    exact .inr ⟨aLine.trans bLine.symm, .inl (by rwa [aRank, bRank])⟩
  · intro x y less a among b amongst
    obtain ⟨p, -, among⟩ := List.mem_flatMap.mp among
    obtain ⟨q, -, amongst⟩ := List.mem_flatMap.mp amongst
    exact .inl (by rwa [(numbers_of_mem_hitsOf among).1, (numbers_of_mem_hitsOf amongst).1])

end Hits

/-! ### What is listed -/

/-- What is listed for a hit lies where the hit does: the text is that of the columns from its start
up to its stop.  Lines and columns are listed from one. -/
structure LineMatch.LiesAt (m : LineMatch) (ps : List (String × Pattern))
    (lines : List (List Char)) (h : Hit) : Prop where
  line : m.line = h.line + 1
  startColumn : m.startColumn = h.start + 1
  stopColumn : m.stopColumn = h.stop + 1
  pattern : ∃ p, ps[h.rank]? = some (m.pattern, p)
  text : ∃ line, lines[h.line]? = some line ∧ h.start ≤ h.stop ∧ h.stop ≤ line.length ∧
    m.text = String.ofList ((line.take h.stop).drop h.start)

section Listing

variable {ps : List (String × Pattern)} {length : Int}

theorem matchesInLines_eq : ∀ (lines : List (List Char)) (number : Nat),
    matchesInLines (ps.map Prod.snd) length (number + 1) lines =
      (lines.zipIdx number).flatMap fun line =>
        ps.zipIdx.flatMap fun p => matchesOf p.1.2 length (line.2 + 1) line.1
  | [], _ => rfl
  | line :: rest, number => by
      have first : (ps.map Prod.snd).flatMap (matchesOf · length (number + 1) line) =
          ps.zipIdx.flatMap fun p => matchesOf p.1.2 length (number + 1) line := by
        rw [List.flatMap_map, ← List.flatMap_map Prod.fst fun p : String × Pattern =>
          matchesOf p.2 length (number + 1) line, List.zipIdx_map_fst]
      rw [matchesInLines, matchesInLines_eq rest (number + 1), List.zipIdx_cons, List.flatMap_cons,
        first]

theorem forall₂_flatMap {α β γ : Type} {R : β → γ → Prop} {f : α → List β} {g : α → List γ} :
    ∀ {l : List α}, (∀ x ∈ l, List.Forall₂ R (f x) (g x)) →
      List.Forall₂ R (l.flatMap f) (l.flatMap g)
  | [], _ => .nil
  | x :: _, each => by
      have first := each x List.mem_cons_self
      have rest := forall₂_flatMap fun y among => each y (List.mem_cons_of_mem x among)
      exact List.rel_append first rest

/-- **What is listed** for patterns in lines, one after another, lies at their hits. -/
theorem forall₂_hits (named : ∀ p ∈ ps, p.2.source = p.1) (length : Int)
    (lines : List (List Char)) :
    List.Forall₂ (fun h m => m.LiesAt ps lines h) (hits ps lines)
      (matchesInLines (ps.map Prod.snd) length 1 lines) := by
  rw [matchesInLines_eq lines 0]
  refine forall₂_flatMap fun line there => forall₂_flatMap fun p valid => ?_
  rw [List.mem_zipIdx_iff_getElem?] at there valid
  rw [hitsOf, matchesOf, List.forall₂_map_left_iff, List.forall₂_map_right_iff, List.forall₂_same]
  intro m _
  have inside : m.stop ≤ line.1.length := by simpa using m.stop_le_size
  exact {
    line := rfl
    startColumn := rfl
    stopColumn := rfl
    pattern := ⟨p.1.2, by rw [named p.1 (List.mem_of_getElem? valid), valid]⟩
    text := ⟨line.1, there, m.start_le_stop, inside, rfl⟩ }

end Listing

/-! ### The report -/

/-- The texts of patterns in params. -/
def patternTexts (params : Option (Table String Value)) : List String :=
  ((param? params "checkPattern").map textsIn).getD []

/-- Those texts that are patterns, in their order, each with its pattern. -/
def validPatterns (sources : List String) : List (String × Pattern) :=
  sources.filterMap fun source => (Pattern.compile source {}).toOption.map fun p => (source, p)

/-- What an entry of a report tells of a hit. -/
structure Tells (ps : List (String × Pattern)) (lines : List (List Char)) (h : Hit)
    (entry : Value) : Prop where
  startLine : entry.at? ["range", "start", "line"] = some (.int (h.line + 1))
  startColumn : entry.at? ["range", "start", "column"] = some (.int (h.start + 1))
  stopLine : entry.at? ["range", "end", "line"] = some (.int (h.line + 1))
  stopColumn : entry.at? ["range", "end", "column"] = some (.int (h.stop + 1))
  pattern : ∃ source p, ps[h.rank]? = some (source, p) ∧
    entry.at? ["pattern"] = some (.text source)
  text : ∃ line, lines[h.line]? = some line ∧ h.start ≤ h.stop ∧ h.stop ≤ line.length ∧
    entry.at? ["match"] = some (.text (String.ofList ((line.take h.stop).drop h.start)))

/-- A short entry repeats the pattern, the line and the snippet of an entry. -/
def Repeats (entry short : Value) : Prop :=
  ∃ pattern line snippet,
    (entry.at? ["pattern"] = some pattern ∧ short.at? ["match"] = some pattern) ∧
    (entry.at? ["range", "start", "line"] = some line ∧ short.at? ["lineNumber"] = some line) ∧
    (entry.at? ["context"] = some snippet ∧ short.at? ["line"] = some snippet)

/-- A report locates the matches of the patterns among some texts in lines: its entries tell of all
hits, of each once and in order, and its short entries repeat them. -/
def Locates (report : Value) (sources : List String) (lines : List (List Char)) : Prop :=
  ∃ hs entries shorts,
    report.at? ["matches"] = some (.list entries) ∧
    report.at? ["result"] = some (.list shorts) ∧
    report.at? ["summary", "totalMatches"] = some (.int entries.length) ∧
    List.Forall₂ Repeats entries shorts ∧
    List.Forall₂ (Tells (validPatterns sources) lines) hs entries ∧
    (hs.Pairwise Hit.Before ∧ hs.Nodup) ∧
    ∀ h, h ∈ hs ↔ IsHit (validPatterns sources) lines h

section Report

variable {sources : List String} {lines : List (List Char)} {found : List LineMatch}

theorem LineMatch.LiesAt.tells {ps : List (String × Pattern)} {h : Hit} {m : LineMatch}
    (lies : m.LiesAt ps lines h) (withGroups : Bool) :
    Tells ps lines h (m.toValue withGroups) := by
  obtain ⟨line, startColumn, stopColumn, ⟨p, valid⟩, whole, there, order, inside, text⟩ := lies
  refine ⟨?_, ?_, ?_, ?_, ⟨_, p, valid, rfl⟩, whole, there, order, inside, ?_⟩
  · exact congrArg (fun n : Nat => some (Value.int n)) line
  · exact congrArg (fun n : Nat => some (Value.int n)) startColumn
  · exact congrArg (fun n : Nat => some (Value.int n)) line
  · exact congrArg (fun n : Nat => some (Value.int n)) stopColumn
  · exact congrArg (fun s => some (Value.text s)) text

theorem locates_of_forall₂ (withGroups : Bool)
    (listed : List.Forall₂ (fun h m => m.LiesAt (validPatterns sources) lines h)
      (hits (validPatterns sources) lines) found) :
    Locates (analysisReport sources withGroups found) sources lines := by
  refine ⟨_, _, _, rfl, rfl, ?_, ?_, ?_, ⟨pairwise_hits _ _, ?_⟩, fun h => mem_hits⟩
  · rw [List.length_map]
    rfl
  · rw [List.forall₂_map_left_iff, List.forall₂_map_right_iff, List.forall₂_same]
    exact fun m _ => ⟨_, _, _, ⟨rfl, rfl⟩, ⟨rfl, rfl⟩, rfl, rfl⟩
  · rw [List.forall₂_map_right_iff]
    exact listed.imp fun _ _ lies => lies.tells withGroups
  · exact (pairwise_hits _ _).imp Hit.Before.ne

theorem source_of_mem_validPatterns {p : String × Pattern} (valid : p ∈ validPatterns sources) :
    p.2.source = p.1 := by
  obtain ⟨source, -, read⟩ := List.mem_filterMap.mp valid
  cases compiled : Pattern.compile source {} with
  | error fault => simp [compiled, Except.toOption] at read
  | ok pattern =>
      obtain rfl : (source, pattern) = p := by simpa [compiled, Except.toOption] using read
      exact Pattern.source_of_compile compiled

/-- The patterns that are read are the valid ones, unless reading stops. -/
theorem readPatterns_fst : ∀ {sources : List String}, (readPatterns sources).2.2 = none →
    (readPatterns sources).1 = (validPatterns sources).map Prod.snd
  | [], _ => rfl
  | source :: rest, complete => by
      unfold readPatterns at complete ⊢
      split at complete
      · next p compiled =>
          simp only [validPatterns, List.filterMap_cons, compiled, Except.toOption, Option.map_some,
            List.map_cons]
          exact congrArg (p :: ·) (readPatterns_fst complete)
      · next fault compiled =>
          split at complete
          · next malformed =>
              simp only [validPatterns, List.filterMap_cons, compiled, malformed, Except.toOption,
                Option.map_none, if_true]
              exact readPatterns_fst complete
          · cases complete

/-- The lines of a content in which matches are looked for. -/
def searchedLines (content : String) : List (List Char) :=
  if content.isEmpty then [] else content.toList.splitOn '\n'

theorem analyse_eq_ok {length : Int} {content : String}
    (h : (analyse sources length (.text content)).1 = .ok found) :
    found = matchesInLines ((validPatterns sources).map Prod.snd) length 1
      (searchedLines content) := by
  unfold analyse at h
  split at h
  · next idle =>
      obtain rfl := Except.ok.inj h
      rcases Bool.or_eq_true_iff.mp idle with empty | unasked
      · have empty : content.isEmpty = true := by simpa [Value.truthy] using empty
        rw [searchedLines, if_pos empty, matchesInLines]
      · rw [List.isEmpty_iff.mp unasked, matchesInLines_eq _ 0]
        simp [validPatterns]
  · next busy =>
      have filled : ¬content.isEmpty = true := fun empty => busy (by simp [Value.truthy, empty])
      cases stopped : (readPatterns sources).2.2 with
      | some failure => simp [stopped] at h
      | none =>
          simp only [stopped, Except.ok.injEq] at h
          rw [← h, matchesInText, readPatterns_fst stopped, Text.splitAt_eq_splitOn, searchedLines,
            if_neg filled]

/-- **The positions in a report.**  For a content and params for which there is a report, its
entries tell of every match of every valid pattern in every line, once each: the text between the
columns that an entry names, in the line that it names, is the one that it gives.  They come by
line, then by pattern, then from left to right without overlap.  An empty content counts as one
without lines. -/
theorem fileAnalysis_locates {params : Option (Table String Value)} {ctx : Context} {run : Run}
    {content : String} {report : Value}
    (target : contentIn (run.valueOf ctx targetFact) = .ok (.text content))
    (answered : (fileAnalysis params ctx run).outcome = .ok report) :
    Locates report (patternTexts params) (searchedLines content) := by
  unfold fileAnalysis at answered
  cases asked : ((param? params "contextLength").getD (.int defaultSnippetLength)).toInteger with
  | error failure => simp [asked, bind, Except.bind] at answered
  | ok length =>
      simp only [asked, target, bind, Except.bind, pure, Except.pure] at answered
      split at answered
      · cases answered
      · next found warnings analysed =>
          obtain rfl := Except.ok.inj answered
          have listed := analyse_eq_ok (congrArg Prod.fst analysed)
          exact locates_of_forall₂ _
            (listed ▸ forall₂_hits (fun p => source_of_mem_validPatterns) length _)

/-- A text that is no pattern, an empty line, and a line feed at the end. -/
theorem fileAnalysis_locates_ragged :
    let params := some [("checkPattern", Value.texts ["b", "(", "x*"])]
    let ctx := Context.ofTarget (.ofFiles [("a.txt", "ab\n\nb\n")]) "a.txt"
    contentIn (({} : Run).valueOf ctx targetFact) = .ok (.text "ab\n\nb\n") ∧
      ∃ report, (fileAnalysis params ctx {}).outcome = .ok report ∧
        Locates report ["b", "(", "x*"] [['a', 'b'], [], ['b'], []] ∧
        (report.at? ["summary", "totalMatches"]).bind Value.num? = some (.int 9) := by
  intro params ctx
  have target : contentIn (({} : Run).valueOf ctx targetFact) = .ok (.text "ab\n\nb\n") := rfl
  obtain ⟨report, answered, counted⟩ :
      ∃ report, (fileAnalysis params ctx {}).outcome = .ok report ∧
        (report.at? ["summary", "totalMatches"]).bind Value.num? = some (.int 9) :=
    ⟨_, rfl, by decide +kernel⟩
  exact ⟨target, report, answered, fileAnalysis_locates target answered, counted⟩

/-- An empty text is one part between line feeds, and there are patterns that match it; but the
report on an empty content tells of no match. -/
theorem fileAnalysis_omits_empty :
    let params := some [("checkPattern", Value.text "x*")]
    let ctx := Context.ofTarget (.ofFiles [("a.txt", "")]) "a.txt"
    contentIn (({} : Run).valueOf ctx targetFact) = .ok (.text "") ∧
      ∃ report, (fileAnalysis params ctx {}).outcome = .ok report ∧
        ¬Locates report (patternTexts params) ("".toList.splitOn '\n') := by
  intro params ctx
  refine ⟨rfl, _, rfl, ?_⟩
  rintro ⟨hs, entries, shorts, listed, -, -, -, told, -, all⟩
  obtain rfl : [] = entries := Value.list.inj (Option.some.inj listed)
  obtain rfl := List.forall₂_nil_right_iff.mp told
  have hit : IsHit (validPatterns ["x*"]) ("".toList.splitOn '\n') ⟨0, 0, 0, 0⟩ :=
    ⟨[], "x*", _, rfl, rfl, _, List.mem_cons_self, rfl, rfl⟩
  exact absurd ((all _).mpr hit) List.not_mem_nil

end Report

/-! ### Snippets -/

/-- A text shows a line from one position up to another: the characters between them, after an
ellipsis if there are some before, and before one if there are some after. -/
structure Shows (line : List Char) (first last : Nat) (shown : List Char) : Prop where
  order : first ≤ last
  inside : last ≤ line.length
  parts : ∃ lead trail, shown = lead ++ (line.take last).drop first ++ trail ∧
    (0 < first ∧ lead = ellipsis ∨ first = 0 ∧ lead = []) ∧
    (last < line.length ∧ trail = ellipsis ∨ last = line.length ∧ trail = [])

theorem snippet_whole {line : List Char} {length : Int}
    (whole : length ≤ 0 ∨ (line.length : Int) ≤ length) (start stop : Nat) :
    snippet line start stop length = line :=
  if_pos whole

/-- Half of the length to either side of a match, kept within the line, comes to no more than the
whole length. -/
theorem clamped_width {size stop : Nat} {length : Int} (inside : stop ≤ size)
    (positive : 0 < length) (start : Nat) :
    start - length.toNat / 2 ≤ start ∧ stop ≤ min size (stop + length.toNat / 2) ∧
      ((min size (stop + length.toNat / 2) : Nat) : Int) - (start - length.toNat / 2 : Nat) ≤
        (stop - start) + length := by
  omega

theorem shows_marked {line : List Char} {first last : Nat} (order : first ≤ last)
    (inside : last ≤ line.length) :
    Shows line first last ((if 0 < first then ellipsis else []) ++ slice line first last ++
      (if last < line.length then ellipsis else [])) := by
  refine ⟨order, inside, _, _, rfl, ?_, ?_⟩
  · rcases Nat.eq_zero_or_pos first with none | some_
    · exact .inr ⟨none, if_neg (by omega)⟩
    · exact .inl ⟨some_, if_pos some_⟩
  · rcases Nat.eq_or_lt_of_le inside with none | some_
    · exact .inr ⟨none, if_neg (by omega)⟩
    · exact .inl ⟨some_, if_pos some_⟩

/-- **The window of a snippet.**  Around a match in a line, a snippet is the whole line if its
length is not positive or not exceeded by the line.  Otherwise it shows the line between two
positions with the match between them, and what is shown is longer than the match by no more than
the length. -/
theorem snippet_window {line : List Char} {start stop : Nat} (order : start ≤ stop)
    (inside : stop ≤ line.length) (length : Int) :
    (length ≤ 0 ∨ (line.length : Int) ≤ length → snippet line start stop length = line) ∧
      (0 < length → length < line.length → ∃ first last : Nat, first ≤ start ∧ stop ≤ last ∧
        (last : Int) - first ≤ (stop - start) + length ∧
        Shows line first last (snippet line start stop length)) := by
  refine ⟨fun whole => snippet_whole whole start stop, fun positive exceeded => ?_⟩
  obtain ⟨before, after, width⟩ := clamped_width inside positive start
  refine ⟨_, _, before, after, width, ?_⟩
  have cut : ¬(length ≤ 0 ∨ (line.length : Int) ≤ length) := by omega
  rw [snippet, if_neg cut]
  exact shows_marked (Nat.le_trans before (Nat.le_trans order after)) (Nat.min_le_left _ _)

/-- A match near the beginning of a line, with a length that is odd. -/
theorem snippet_window_early :
    snippet "a needle in a haystack".toList 2 8 7 = "a needle in...".toList ∧
      ∃ first last : Nat, first ≤ 2 ∧ 8 ≤ last ∧ (last : Int) - first ≤ (8 - 2) + 7 ∧
        Shows "a needle in a haystack".toList first last "a needle in...".toList := by
  have shown : snippet "a needle in a haystack".toList 2 8 7 = "a needle in...".toList := by decide
  have order : 2 ≤ 8 := by decide
  have inside : 8 ≤ "a needle in a haystack".toList.length := by decide
  have window := (snippet_window order inside 7).2 (by decide) (by decide)
  exact ⟨shown, shown ▸ window⟩

end Plugin

end Verdict
