import Mathlib.Data.List.Basic
import Verdict.Plugin.Filesystem

/-!
# Plugins: required files

An entry of a list of required files is there if some path equals it or ends in it after a
separator.  Said of the parts between separators, whatever they hold: those of the entry are the
last ones of the path (`satisfies_iff`).

* `missingFrom_sublist`: the more paths are listed, the less is missing.
* `subset_extendListing`: files laid over a project leave its paths listed.
* `missingRequiredFiles_divides`: the report divides the list of entries into those that are there
  and those that are not, and more files leave less missing.
-/

namespace Verdict.Plugin

/-- The parts of a path between its separators. -/
def segments (path : String) : List (List Char) := Text.splitAt '/' path.toList

/-! ### One entry -/

theorem exists_intercalate_append (mark : Char) {parts : List (List Char)} (some_ : parts ≠ []) :
    ∀ {before : List (List Char)}, before ≠ [] →
      ∃ front, [mark].intercalate (before ++ parts) = front ++ mark :: [mark].intercalate parts
  | [part], _ => ⟨part, by simp [List.intercalate_cons_of_ne_nil some_]⟩
  | part :: next :: rest, _ => by
      obtain ⟨front, joined⟩ := exists_intercalate_append mark some_ (List.cons_ne_nil next rest)
      refine ⟨part ++ mark :: front, ?_⟩
      rw [List.cons_append, List.intercalate_cons_of_ne_nil (by simp), joined]
      simp

/-- **The end of a path.**  A text is another one or ends in it after a mark exactly if the parts of
the other are its last ones. -/
theorem splitAt_suffix_iff {mark : Char} {part whole : List Char} :
    Text.splitAt mark part <:+ Text.splitAt mark whole ↔
      whole = part ∨ mark :: part <:+ whole := by
  simp only [Text.splitAt_eq_splitOn]
  constructor
  · rintro ⟨before, split⟩
    have joined : whole = [mark].intercalate (before ++ part.splitOn mark) := by
      rw [split, List.intercalate_splitOn]
    cases before with
    | nil => exact .inl (by rw [joined, List.nil_append, List.intercalate_splitOn])
    | cons first rest =>
        obtain ⟨front, ends⟩ := exists_intercalate_append mark (List.splitOn_ne_nil mark part)
          (List.cons_ne_nil first rest)
        rw [List.intercalate_splitOn] at ends
        exact .inr ⟨front, (joined.trans ends).symm⟩
  · rintro (rfl | ⟨before, rfl⟩)
    · exact List.suffix_rfl
    · rw [List.splitOn_append_cons_self]
      exact List.suffix_append _ _

theorem satisfies_iff {path entry : String} :
    satisfies path entry = true ↔ segments entry <:+ segments path := by
  rw [segments, segments, splitAt_suffix_iff, String.toList_inj, satisfies, Bool.or_eq_true,
    beq_iff_eq, List.isSuffixOf_iff_suffix]

theorem isPresent_iff {listing : List String} {entry : String} :
    isPresent listing entry = true ↔ ∃ path ∈ listing, segments entry <:+ segments path := by
  simp only [isPresent, List.any_eq_true, satisfies_iff]

/-! ### A list of entries -/

section Entries

variable {listing more required : List String}

theorem mem_missingFrom {entry : String} :
    entry ∈ missingFrom listing required ↔ entry ∈ required ∧ isPresent listing entry = false := by
  simp [missingFrom]

/-- What is found is what is there, however often an entry comes. -/
theorem foundIn_eq : foundIn listing required = required.filter (isPresent listing) := by
  refine List.filter_congr fun entry among => ?_
  cases present : isPresent listing entry <;> simp [mem_missingFrom, among, present]

theorem mem_foundIn {entry : String} (among : entry ∈ required) :
    entry ∈ foundIn listing required ↔ isPresent listing entry = true := by
  rw [foundIn_eq, List.mem_filter, and_iff_right among]

/-- What is missing is what is not found. -/
theorem mem_missingFrom_iff {entry : String} :
    entry ∈ missingFrom listing required ↔
      entry ∈ required ∧ entry ∉ foundIn listing required := by
  rw [mem_missingFrom]
  exact and_congr_right fun among => by rw [mem_foundIn among, Bool.not_eq_true]

theorem isPresent_mono (kept : listing ⊆ more) {entry : String}
    (present : isPresent listing entry = true) : isPresent more entry = true := by
  obtain ⟨path, listed, ends⟩ := isPresent_iff.mp present
  exact isPresent_iff.mpr ⟨path, kept listed, ends⟩

/-- **The more is listed, the less is missing.** -/
theorem missingFrom_sublist (kept : listing ⊆ more) :
    (missingFrom more required).Sublist (missingFrom listing required) := by
  refine List.monotone_filter_right required fun entry absent => ?_
  simp only [Bool.not_eq_true'] at absent ⊢
  exact Bool.eq_false_iff.mpr fun present =>
    Bool.eq_false_iff.mp absent (isPresent_mono kept present)

theorem subset_extendListing : ∀ {paths listing : List String},
    listing ⊆ Project.extendListing listing paths
  | [], _ => List.Subset.refl _
  | path :: rest, listing => by
      show listing ⊆ Project.extendListing
        (if listing.contains path then listing else listing ++ [path]) rest
      split
      · exact subset_extendListing
      · exact List.Subset.trans (List.subset_append_left _ _) subset_extendListing

end Entries

/-! ### The report -/

/-- A report names entries as found and others as missing, and counts them. -/
structure Divides (report : Value) (there absent : List String) : Prop where
  found : report.field? "found" = some (.texts there)
  missing : report.field? "missing" = some (.texts absent)
  total : report.field? "total" = some (.int (there.length + absent.length))

section Report

variable {params : Option (Table String Value)} {required there absent : List String}

theorem textsIn_texts : ∀ ss : List String, textsIn (.texts ss) = ss
  | [] => rfl
  | s :: rest => congrArg (s :: ·) (textsIn_texts rest)

/-- There is a report on a list of required files. -/
theorem exists_report (asked : param? params "requiredFiles" = some (.texts required))
    (ctx : Context) :
    ∃ report, (missingRequiredFiles params ctx).outcome = .ok report ∧
      Divides report (foundIn ctx.project.listing required)
        (missingFrom ctx.project.listing required) := by
  have whole : required.length = (foundIn ctx.project.listing required).length +
      (missingFrom ctx.project.listing required).length := by
    rw [foundIn_eq, missingFrom, ← List.length_eq_length_filter_add]
  refine ⟨_, rfl, ?_⟩
  simp only [asked, Option.map_some, Option.getD_some, textsIn_texts]
  refine ⟨rfl, rfl, ?_⟩
  show some (Value.int required.length) = _
  rw [whole, Int.natCast_add]

/-- Something is missing, as the operator sees it. -/
theorem hasMissingFiles_of_divides {report : Value} (divides : Divides report there absent) :
    hasMissingFiles report (.bool true) = .ok (.bool !absent.isEmpty) := by
  cases report with
  | mapping pairs =>
      simp only [hasMissingFiles, divides.missing, Option.getD_some]
      cases absent <;> rfl
  | atom | list | tuple | set | record | cycle => cases divides.missing

/-- **The report on required files.**  It divides the list into what is found and what is missing:
each in the order of the list, no entry is both, and every entry is counted as often as it comes.
An entry is found exactly if its parts are the last ones of some listed path.  The operator says
that files are missing exactly if some entry is not found.  Whatever files are laid over the
project, what is missing then was missing before. -/
theorem missingRequiredFiles_divides
    (asked : param? params "requiredFiles" = some (.texts required)) (ctx : Context) :
    ∃ report there absent,
      (missingRequiredFiles params ctx).outcome = .ok report ∧ Divides report there absent ∧
      (there.Sublist required ∧ absent.Sublist required ∧ (there ++ absent).Perm required ∧
        there.Disjoint absent) ∧
      (∀ entry ∈ required, entry ∈ there ↔
        ∃ path ∈ ctx.project.listing, segments entry <:+ segments path) ∧
      (∃ b, hasMissingFiles report (.bool true) = .ok (.bool b) ∧
        (b = true ↔ ∃ entry ∈ required, entry ∉ there)) ∧
      ∀ extra, ∃ report' there' absent',
        (missingRequiredFiles params { ctx with project := ctx.project.withFiles extra }).outcome =
          .ok report' ∧
        Divides report' there' absent' ∧ absent'.Sublist absent := by
  obtain ⟨report, made, divides⟩ := exists_report asked ctx
  refine ⟨report, _, _, made, divides, ⟨?_, List.filter_sublist, ?_, ?_⟩, fun entry among => ?_,
    ⟨_, hasMissingFiles_of_divides divides, ?_⟩, fun extra => ?_⟩
  · exact List.filter_sublist
  · rw [foundIn_eq]
    exact List.filter_append_perm _ required
  · intro entry there absent
    exact (mem_missingFrom_iff.mp absent).2 there
  · rw [mem_foundIn among, isPresent_iff]
  · rw [Bool.not_eq_true', List.isEmpty_eq_false_iff_exists_mem]
    exact exists_congr fun entry => mem_missingFrom_iff
  · obtain ⟨report', made', divides'⟩ :=
      exists_report asked { ctx with project := ctx.project.withFiles extra }
    exact ⟨report', _, _, made', divides', missingFrom_sublist subset_extendListing⟩

/-- A list with an entry that comes twice, one that a path ends in, and one that no path does. -/
theorem missingRequiredFiles_divides_repeated :
    let required := ["README.md", "LICENSE", "src/App.tsx", "README.md"]
    let params := some [("requiredFiles", Value.texts required)]
    let ctx := Context.ofTarget (.ofFiles [("README.md", ""), ("web/src/App.tsx", "")]) "README.md"
    param? params "requiredFiles" = some (.texts required) ∧
      ∃ report there absent, (missingRequiredFiles params ctx).outcome = .ok report ∧
        Divides report there absent ∧ (there ++ absent).Perm required ∧
        "src/App.tsx" ∈ there ∧ "LICENSE" ∈ absent ∧
        hasMissingFiles report (.bool true) = .ok (.bool true) := by
  intro required params ctx
  have asked : param? params "requiredFiles" = some (.texts required) := rfl
  obtain ⟨report, there, absent, made, divides, ⟨-, -, whole, -⟩, iff_there,
    ⟨b, judged, iff_lacks⟩, -⟩ := missingRequiredFiles_divides asked ctx
  have license : "LICENSE" ∉ there := by
    rw [iff_there _ (by decide)]
    decide
  have app : "src/App.tsx" ∈ there := (iff_there _ (by decide)).mpr (by decide)
  have among : "LICENSE" ∈ there ++ absent := whole.mem_iff.mpr (by decide)
  obtain rfl : b = true := iff_lacks.mpr ⟨"LICENSE", by decide, license⟩
  exact ⟨asked, report, there, absent, made, divides, whole, app,
    (List.mem_append.mp among).resolve_left license, judged⟩

end Report

end Verdict.Plugin
