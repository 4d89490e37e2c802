import Mathlib.Data.List.TakeWhile
import Verdict.Fixture.Loader

/-!
# Fixtures: what a listing holds

A listing keeps the load order of a project and lets a path pass if it passes each filter that is
given.  The extension of a path is what follows its last point, and it is compared in small letters.

* `endsIn_lastSegment`: an extension without a separator is one of the file name.
* `list_filters`: a listing is the part of the project's that passes all filters, each on its own.
* `list_omits_twoPoints`: a text with a point is no extension, so it lets nothing pass.
-/

namespace Verdict

namespace Text

/-! ### What follows the last mark -/

variable {mark : Char} {before after s : List Char}

/-- What follows the last mark is taken from the end of a text. -/
theorem afterLast_append (free : mark ∉ after) :
    ((before ++ mark :: after).reverse.takeWhile (· != mark)).reverse = after := by
  have pass : ∀ c ∈ after.reverse, (c != mark) = true := by
    intro c hc
    rw [bne_iff_ne]
    rintro rfl
    exact free (List.mem_reverse.mp hc)
  rw [List.reverse_append, List.reverse_cons, List.append_assoc,
    List.takeWhile_append_of_pos pass]
  simp

theorem afterLast_of_notMem (free : mark ∉ s) :
    (s.reverse.takeWhile (· != mark)).reverse = s := by
  rw [List.takeWhile_eq_self_iff.mpr, List.reverse_reverse]
  intro c hc
  rw [bne_iff_ne]
  rintro rfl
  exact free (List.mem_reverse.mp hc)

theorem exists_last (present : mark ∈ s) :
    ∃ before after, s = before ++ mark :: after ∧ mark ∉ after := by
  obtain ⟨front, back, split, free⟩ := List.eq_append_cons_of_mem (List.mem_reverse.mpr present)
  refine ⟨back.reverse, front.reverse, ?_, by simpa using free⟩
  rw [← List.reverse_reverse s, split]
  simp

/-- A separator stays as it is in small letters. -/
theorem separator_mem_lower : ∀ {s before : List Char}, '/' ∈ s → '/' ∈ lowerFrom before s
  | c :: rest, before, among => by
      have same : lowerChar '/' = '/' := by decide
      rw [lowerFrom, List.mem_append]
      rcases List.mem_cons.mp among with rfl | among
      · exact .inl (by simp [same])
      · exact .inr (separator_mem_lower among)

end Text

namespace FileFilter

/-! ### Extensions -/

/-- A path ends in an extension: what follows its last point is the extension without points before
it, both in small letters. -/
def EndsIn (path extension : String) : Prop :=
  ∃ stem suffix, path.toList = stem ++ '.' :: suffix ∧ '.' ∉ suffix ∧
    Text.lower (String.ofList suffix) = bareExtension extension

theorem extensionOf?_eq_some {path found : String} : extensionOf? path = some found ↔
    ∃ stem suffix, path.toList = stem ++ '.' :: suffix ∧ '.' ∉ suffix ∧
      Text.lower (String.ofList suffix) = found := by
  unfold extensionOf?
  by_cases present : '.' ∈ path.toList
  · obtain ⟨stem, suffix, split, free⟩ := Text.exists_last present
    rw [if_pos (List.contains_iff_mem.mpr present)]
    simp only [split, Text.afterLast_append free, Option.some.injEq]
    constructor
    · rintro rfl
      exact ⟨stem, suffix, rfl, free, rfl⟩
    · rintro ⟨stem', suffix', same, free', rfl⟩
      have suffixes := congrArg (fun s => (s.reverse.takeWhile (· != '.')).reverse) same
      rw [Text.afterLast_append free, Text.afterLast_append free'] at suffixes
      rw [suffixes]
  · simp only [List.contains_iff_mem, present, if_false, reduceCtorEq, false_iff]
    rintro ⟨stem, suffix, split, -⟩
    exact present (by simp [split])

theorem passesExtensions_iff {extensions : List String} {path : String} :
    passesExtensions extensions path = true ↔
      (extensions ≠ [] → ∃ extension ∈ extensions, EndsIn path extension) := by
  have found (extension : String) : EndsIn path extension ↔
      extensionOf? path = some (bareExtension extension) := extensionOf?_eq_some.symm
  simp only [found, passesExtensions, Bool.or_eq_true, List.isEmpty_iff, Option.any_eq_true,
    List.contains_iff_mem, List.mem_map]
  constructor
  · rintro (none | ⟨_, has, extension, among, rfl⟩) some_
    · exact absurd none some_
    · exact ⟨extension, among, has⟩
  · intro passes
    refine or_iff_not_imp_left.mpr fun some_ => ?_
    obtain ⟨extension, among, has⟩ := passes some_
    exact ⟨_, has, extension, among, rfl⟩

theorem lastSegment_append {directory name : List Char} {path : String} (free : '/' ∉ name)
    (split : path.toList = directory ++ '/' :: name) : lastSegment path = String.ofList name := by
  rw [lastSegment, split, Text.afterLast_append free]

theorem lastSegment_of_notMem {path : String} (free : '/' ∉ path.toList) :
    lastSegment path = path := by
  rw [lastSegment, Text.afterLast_of_notMem free, String.ofList_toList]

/-- **The extension of a file name.**  A path ends in an extension without a separator exactly if
its last segment does. -/
theorem endsIn_lastSegment {path extension : String}
    (whole : '/' ∉ (bareExtension extension).toList) :
    EndsIn path extension ↔ EndsIn (lastSegment path) extension := by
  by_cases deep : '/' ∈ path.toList
  · obtain ⟨directory, name, split, free⟩ := Text.exists_last deep
    rw [lastSegment_append free split, EndsIn, EndsIn, split, String.toList_ofList]
    constructor
    · rintro ⟨stem, suffix, same, noPoint, lower⟩
      have inName : '/' ∉ '.' :: suffix := by
        rw [List.mem_cons, not_or]
        refine ⟨by decide, fun among => whole ?_⟩
        rw [← lower, Text.lower, String.toList_ofList, String.toList_ofList]
        exact Text.separator_mem_lower among
      -- the last separator stands before the point
      rcases List.append_eq_append_iff.mp same with ⟨rest, stems, names⟩ | ⟨rest, -, names⟩
      · cases rest with
        | nil =>
            rw [List.nil_append] at names
            exact absurd (names ▸ List.mem_cons_self) inName
        | cons c rest =>
            exact ⟨rest, suffix, (List.cons.inj names).2, noPoint, lower⟩
      · exact absurd (names ▸ List.mem_append_right rest List.mem_cons_self) inName
    · rintro ⟨stem, suffix, same, noPoint, lower⟩
      exact ⟨directory ++ '/' :: stem, suffix, by rw [same]; simp, noPoint, lower⟩
  · rw [lastSegment_of_notMem deep]

/-! ### Globs -/

theorem passesPattern_iff {pattern : Option String} {path : String} :
    passesPattern pattern path = true ↔
      ∀ text, pattern = some text → text ≠ "" → (Glob.ofText text).matchesPath path = true := by
  unfold passesPattern
  cases pattern with
  | none => simp
  | some text => by_cases empty : text = "" <;> simp [Option.filter, empty]

theorem passesExclusion_iff {excluded : List String} {path : String} :
    passesExclusion excluded path = true ↔ ∀ text ∈ excluded,
      (Glob.ofText text).matchesPath path = false ∧
        (Glob.ofText text).matchesPath (lastSegment path) = false := by
  simp [passesExclusion]

end FileFilter

namespace Fixture.Loader

open FileFilter

/-- **The filters of a listing.**  For a project that is held, a listing is the part of the project's
in load order that passes every filter that is given: a path ends in one of the extensions, matches
the pattern, and neither it nor its last segment matches a pattern that excludes.  So it passes
exactly if it passes each filter on its own. -/
theorem list_filters {l : Loader} {p : Project} (held : l.project = some p) (f : FileFilter) :
    (∃ passes : String → Bool, l.list f = p.listing.filter passes ∧
      ∀ path, passes path = true ↔
        (f.extensions ≠ [] → ∃ extension ∈ f.extensions, EndsIn path extension) ∧
        (∀ text, f.pathPattern = some text → text ≠ "" →
          (Glob.ofText text).matchesPath path = true) ∧
        ∀ text ∈ f.excluded, (Glob.ofText text).matchesPath path = false ∧
          (Glob.ofText text).matchesPath (lastSegment path) = false) ∧
    (∀ path, path ∈ l.list f ↔ path ∈ l.list { extensions := f.extensions } ∧
      path ∈ l.list { pathPattern := f.pathPattern } ∧ path ∈ l.list { excluded := f.excluded }) ∧
    ∀ path extension, '/' ∉ (bareExtension extension).toList →
      (EndsIn path extension ↔ EndsIn (lastSegment path) extension) := by
  have list_eq (g : FileFilter) : l.list g = p.listing.filter g.passes := by
    rw [list, held]
    rfl
  have passes_iff (g : FileFilter) (path : String) : g.passes path = true ↔
      passesExtensions g.extensions path = true ∧ passesPattern g.pathPattern path = true ∧
        passesExclusion g.excluded path = true := by
    simp only [passes, Bool.and_eq_true, and_assoc]
  refine ⟨⟨f.passes, list_eq f, fun path => ?_⟩, fun path => ?_, fun _ _ => endsIn_lastSegment⟩
  · rw [passes_iff, passesExtensions_iff, passesPattern_iff, passesExclusion_iff]
  · have ofNone : passesPattern none path = true := rfl
    have ofEmpty : passesExtensions [] path = true := rfl
    have ofNothing : passesExclusion [] path = true := rfl
    simp only [list_eq, List.mem_filter, passes_iff, ofNone, ofEmpty, ofNothing, true_and, and_true]
    constructor
    · rintro ⟨listed, extension, pattern, exclusion⟩
      exact ⟨⟨listed, extension⟩, ⟨listed, pattern⟩, listed, exclusion⟩
    · rintro ⟨⟨listed, extension⟩, ⟨-, pattern⟩, -, exclusion⟩
      exact ⟨listed, extension, pattern, exclusion⟩

/-- A project with points in the names of files and directories. -/
def pointed : Project :=
  .ofFiles [("x.tar.gz", ""), ("src.d/Makefile", ""), ("src/App.JS", ""), ("lib/app.js", "")]

/-- The points that lead an extension and the case of its letters do not count; what a directory is
called does, if it is excluded. -/
theorem list_filters_pointed :
    let l : Loader := { project := some pointed }
    l.list { extensions := ["..Js"], excluded := ["lib/*"] } = ["src/App.JS"] ∧
      ∀ path, path ∈ l.list { extensions := ["..Js"], excluded := ["lib/*"] } ↔
        path ∈ l.list { extensions := ["..Js"] } ∧ path ∈ l.list {} ∧
          path ∈ l.list { excluded := ["lib/*"] } :=
  ⟨by decide +kernel, (list_filters rfl { extensions := ["..Js"], excluded := ["lib/*"] }).2.1⟩

/-- A text with a point in it is not what follows the last point of any path; so a file is not
listed whose name ends in a point and that text. -/
theorem list_omits_twoPoints :
    let l : Loader := { project := some pointed }
    "x.tar.gz" ∈ pointed.listing ∧
      '.' :: (bareExtension "tar.gz").toList <:+ (lastSegment "x.tar.gz").toList ∧
      l.list { extensions := ["tar.gz"] } = [] :=
  ⟨by decide, by decide +kernel, by decide +kernel⟩

end Fixture.Loader

end Verdict
