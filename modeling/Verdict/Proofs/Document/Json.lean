import Verdict.Document
import Verdict.Proofs.Text.LineEnds
import Verdict.Proofs.Yaml.Notation

/-!
# Documents in JSON

Documents are read as YAML, also where they are written in JSON.  A text of JSON in the notation
that YAML shares stands for the same mapping in both (`load_json`); outside of it one text may stand
for two mappings (`load_writtenExponent`).
-/

namespace Verdict

/-! ### Line ends -/

namespace Text

/-- A text on one line stays as it is. -/
theorem unifyLineEnds_written {written : List Char} (h : ∀ c ∈ written, Yaml.isBreak c = false)
    (rest : List Char) : unifyLineEnds (written ++ rest) = written ++ unifyLineEnds rest :=
  unifyLineEnds_of_notMem (fun among => absurd (h _ among) (by decide)) rest

end Text

namespace Json

open Text
open Yaml.Scanning (IsBlank)

/-- The lexeme with feeds for the line ends before it. -/
def Lexeme.unified (l : Lexeme) : Lexeme := { l with blanks := unifyLineEnds l.blanks }

theorem isBlank_of_mem_unifyLineEnds {blanks : List Char}
    (areBlanks : ∀ c ∈ blanks, isSpace c = true) (noTab : ∀ c ∈ blanks, isSharedChar c = true) :
    ∀ c ∈ unifyLineEnds blanks, IsBlank c := by
  intro c hc
  rcases mem_unifyLineEnds hc with rfl | ⟨among, noReturn⟩
  · exact .inr rfl
  · have space := areBlanks c among
    have shared := noTab c among
    simp only [isSpace, Bool.or_eq_true, beq_iff_eq] at space
    rcases space with ((rfl | rfl) | rfl) | rfl
    · exact .inl rfl
    · cases shared
    · exact .inr rfl
    · exact absurd rfl noReturn

/-- The lexemes of a text with feeds for its line ends. -/
theorem unifyLineEnds_lexemes {trailing : List Char} : ∀ {ls : List Lexeme},
    (∀ l ∈ ls, Yaml.Shares l.written l.token) →
    unifyLineEnds (ls.flatMap Lexeme.text ++ trailing) =
      (ls.map Lexeme.unified).flatMap Lexeme.text ++ unifyLineEnds trailing
  | [], _ => rfl
  | l :: ls, shares => by
      obtain ⟨here, shares⟩ := List.forall_mem_cons.mp shares
      have begins (rest : List Char) : (l.written ++ rest).head? ≠ some '\n' := fun feed =>
        absurd ((here.resumes rest).noBreak '\n' feed) (by decide)
      rw [List.flatMap_cons, Lexeme.text, List.append_assoc, List.append_assoc,
        unifyLineEnds_append (begins _), unifyLineEnds_written here.inLine,
        unifyLineEnds_lexemes shares]
      simp [Lexeme.unified, Lexeme.text]

/-- Lexemes in shared notation, with feeds for the line ends before them. -/
theorem areShared_unified : ∀ {ls : List Lexeme}, areShared ls = true →
    (∀ l ∈ ls, l.IsWritten) → (∀ l ∈ ls, l.token.IsProper) →
    (∀ c ∈ ls.flatMap Lexeme.text, isSharedChar c = true) →
    (∀ l ∈ ls, Yaml.Shares l.written l.token) ∧ Yaml.AreShared (ls.map Lexeme.unified)
  | [], _, _, _, _ => ⟨by simp, trivial⟩
  | l :: ls, shared, areWritten, proper, chars => by
      simp only [areShared, Bool.and_eq_true] at shared
      obtain ⟨⟨shared, reaching⟩, sharedRest⟩ := shared
      obtain ⟨isWritten, areWritten⟩ := List.forall_mem_cons.mp areWritten
      obtain ⟨isProper, proper⟩ := List.forall_mem_cons.mp proper
      rw [List.flatMap_cons, List.forall_mem_append, Lexeme.text, List.forall_mem_append] at chars
      obtain ⟨⟨blankChars, writtenChars⟩, chars⟩ := chars
      obtain ⟨sharesRest, areSharedRest⟩ := areShared_unified sharedRest areWritten proper chars
      have shares := shares_of_isShared isWritten.writes isProper shared writtenChars
      refine ⟨List.forall_mem_cons.mpr ⟨shares, sharesRest⟩,
        isBlank_of_mem_unifyLineEnds isWritten.blanks blankChars, shares, ?_, areSharedRest⟩
      -- the colon after a name stands on its line also with other line ends
      intro next hnext colon
      cases ls with
      | nil => cases hnext
      | cons next' ls =>
          obtain rfl : next'.unified = next := by simpa using hnext
          have reach : reaches l.written next' = true := by simpa using reaching
          have isColon : next'.token = .colon := colon
          simp only [reaches, isColon, Bool.and_eq_true, List.all_eq_true, beq_iff_eq,
            decide_eq_true_eq] at reach
          obtain ⟨spaces, near⟩ := reach
          have inLine : ∀ c ∈ next'.blanks, Yaml.isBreak c = false := fun c hc => by
            rw [spaces c hc]
            rfl
          have same : unifyLineEnds next'.blanks = next'.blanks := by
            simpa [unifyLineEnds] using unifyLineEnds_written inLine []
          exact ⟨by rwa [Lexeme.unified, same], by simpa only [Lexeme.unified, same] using near⟩

end Json

/-! ### Documents -/

namespace Document

open Json

/-- What is read as JSON begins with no mark of byte order. -/
theorem runs_of_read {text : List Char} {v : Value} (h : Json.read text = .ok v) :
    Machine.start.Runs ((lexemes text).map (·.token)) v ∧
      Yaml.dropByteOrderMark (Text.unifyLineEnds text) = Text.unifyLineEnds text := by
  unfold Json.read at h
  split at h
  · cases h
  · next noMark =>
      refine ⟨?_, ?_⟩
      · have runs := Machine.runs_of_run h
        rwa [tokens, tokensWithin_eq] at runs
      · fun_cases Text.unifyLineEnds text with
        | case1 | case2 | case3 => rfl
        | case4 c rest =>
            refine if_neg fun mark => noMark rest ?_
            rw [← Char.ofNat_toNat c, beq_iff_eq.mp mark]

/-- **JSON in shared notation** stands for the same mapping as YAML. -/
theorem ofText_json {text : List Char} {pairs : List (Atom × Value)}
    (parses : Json.read text = .ok (.mapping pairs)) (shared : Json.isShared text = true) :
    ofText (Text.unifyLineEnds text) = .ok pairs := by
  obtain ⟨runs, noMark⟩ := runs_of_read parses
  simp only [Json.isShared, Bool.and_eq_true, List.all_eq_true] at shared
  obtain ⟨chars, shared⟩ := shared
  have proper : ∀ l ∈ lexemes text, l.token.IsProper := fun l hl =>
    runs.isProper l.token (List.mem_map_of_mem hl)
  obtain ⟨trailing, splits⟩ := splits_lexemes proper
  have charsOf : ∀ c ∈ (lexemes text).flatMap Lexeme.text ++ trailing, isSharedChar c = true := by
    rw [← splits.text]
    exact chars
  obtain ⟨lexemeChars, trailingChars⟩ := List.forall_mem_append.mp charsOf
  obtain ⟨shares, areShared⟩ := areShared_unified shared splits.written proper lexemeChars
  have unified : Text.unifyLineEnds text =
      ((lexemes text).map Lexeme.unified).flatMap Lexeme.text ++ Text.unifyLineEnds trailing := by
    rw [← unifyLineEnds_lexemes shares, ← splits.text]
  -- only blanks change with the line ends
  have sameTokens : ((lexemes text).map Lexeme.unified).map (·.token) =
      (lexemes text).map (·.token) := by
    rw [List.map_map]
    rfl
  have sameSigns : ((lexemes text).map Lexeme.unified).map Lexeme.sign =
      (lexemes text).map Lexeme.sign := by
    rw [List.map_map]
    rfl
  have blank := isBlank_of_mem_unifyLineEnds splits.trailing trailingChars
  have allowed : (Text.unifyLineEnds text).all Yaml.isAllowed = true := by
    rw [List.all_eq_true]
    intro c hc
    rcases Text.mem_unifyLineEnds hc with rfl | ⟨among, -⟩
    · rfl
    · have := chars c among
      simp only [isSharedChar, Bool.and_eq_true] at this
      exact this.1.1
  obtain ⟨p, signs, value⟩ := Machine.exists_phrase_of_runs runs
  have scanned : Yaml.scan (Text.unifyLineEnds text) = .ok p.marks := by
    have runs : Machine.start.Runs (((lexemes text).map Lexeme.unified).map (·.token))
        (.mapping pairs) := by rwa [sameTokens]
    rw [Yaml.Scanning.scan_lexemes unified runs areShared blank allowed noMark, sameSigns, ← signs,
      p.foldl_addMark_signs, List.nil_append]
  have plain : Yaml.ArePlain p.signs := by
    rw [signs]
    exact arePlain_of_areShared shared splits.written
  rw [ofText, Yaml.read_of_scan scanned plain, value]

/-- A file is read as what its text stands for. -/
theorem load_eq {files : File.System} {path : File.Path} {bytes : List UInt8} {text : List Char}
    (stored : files.read path = .ok bytes) (decoded : Text.decode bytes = .ok text) :
    load files path = ofText (Text.unifyLineEnds text) := by
  have reads : readText files path = .ok (Text.unifyLineEnds text) := by
    rw [readText, stored]
    show ((Text.decode bytes).mapError Fault.undecodable >>= fun text => _) = _
    rw [decoded]
    rfl
  rw [load, reads]
  rfl

/-- **A file in JSON** in shared notation is read as the mapping that its text stands for. -/
theorem load_json {files : File.System} {path : File.Path} {bytes : List UInt8} {text : List Char}
    {pairs : List (Atom × Value)} (stored : files.read path = .ok bytes)
    (decoded : Text.decode bytes = .ok text) (parses : Json.read text = .ok (.mapping pairs))
    (shared : Json.isShared text = true) : load files path = .ok pairs := by
  rw [load_eq stored decoded]
  exact ofText_json parses shared

/-! ### Two files -/

/-- Characters of ASCII as bytes. -/
def asciiBytes (text : List Char) : List UInt8 :=
  text.map fun c => UInt8.ofNat c.toNat

/-- A directory with one file, which holds a text of ASCII. -/
def holding (text : List Char) : File.System where
  root := .directory [("rule.json", .file (asciiBytes text))]

/-- The path of the file. -/
def rulePath : File.Path := ⟨"", ["rule.json"]⟩

theorem read_holding (text : List Char) :
    (holding text).read rulePath = .ok (asciiBytes text) := by
  have short : ¬rulePath.isTooLong := by decide
  have shortName : ¬File.maxNameBytes < "rule.json".utf8ByteSize := by decide
  have located : (holding text).locate rulePath = .ok ["rule.json"] := by
    rw [File.System.locate, if_neg short]
    simp [File.trace, holding, rulePath, File.Node.at?, Table.get?, shortName, File.Path.isAbsolute]
  rw [File.System.read, File.System.find, located]
  rfl

/-- JSON in shared notation, with a line end of two characters. -/
def writtenRule : List Char :=
  ("\x7b\"name\": \"size \\u003e 1\",\r\n " ++
    "\"value\": [-1.5e+3, 20, null, \x7b\"on\": true\x7d]\x7d").toList

/-- The mapping that it stands for. -/
def rulePairs : List (Atom × Value) :=
  [(.text "name", .text "size > 1"),
    (.text "value", .list [.float (.ofInt (-1500)), .int 20, .null,
      .mapping [(.text "on", .bool true)]])]

/-- A file of this text is read as JSON and loaded as a document to the same mapping. -/
theorem load_writtenRule :
    Text.decode (asciiBytes writtenRule) = .ok writtenRule ∧
      Json.read writtenRule = .ok (.mapping rulePairs) ∧ Json.isShared writtenRule = true ∧
      load (holding writtenRule) rulePath = .ok rulePairs := by
  have decoded : Text.decode (asciiBytes writtenRule) = .ok writtenRule := by decide +kernel
  have parses : Json.read writtenRule = .ok (.mapping rulePairs) := by rfl
  have shared : Json.isShared writtenRule = true := by decide
  exact ⟨decoded, parses, shared, load_json (read_holding _) decoded parses shared⟩

/-- JSON with an exponent that has no sign. -/
def writtenExponent : List Char := "\x7b\"a\": 1e5\x7d".toList

theorem ofText_writtenExponent :
    ofText (Text.unifyLineEnds writtenExponent) = .ok [(.text "a", .text "1e5")] := by
  let p : Phrase := .mapping [("a", .scalar (.text "1e5") "1e5")]
  have scanned : Yaml.scan (Text.unifyLineEnds writtenExponent) = .ok p.marks := by decide +kernel
  have kind : Yaml.tagOfPlain "1e5" = .text := by decide +kernel
  have plain : Yaml.ArePlain p.signs := by
    intro a written among
    obtain ⟨rfl, rfl⟩ : a = .text "1e5" ∧ written = "1e5" := by
      simpa [p, Phrase.signs, Phrase.memberSigns] using among
    exact Yaml.writesPlain_of_tag kind rfl rfl
  rw [ofText, Yaml.read_of_scan scanned plain]
  rfl

/-- A number with such an exponent stands for a text in YAML. -/
theorem load_writtenExponent :
    (holding writtenExponent).read rulePath = .ok (asciiBytes writtenExponent) ∧
      Text.decode (asciiBytes writtenExponent) = .ok writtenExponent ∧
      Json.read writtenExponent = .ok (.mapping [(.text "a", .float (.ofInt 100000))]) ∧
      load (holding writtenExponent) rulePath = .ok [(.text "a", .text "1e5")] := by
  have decoded : Text.decode (asciiBytes writtenExponent) = .ok writtenExponent := by
    decide
  exact ⟨read_holding _, decoded, by rfl,
    (load_eq (read_holding _) decoded).trans ofText_writtenExponent⟩

end Document

end Verdict
