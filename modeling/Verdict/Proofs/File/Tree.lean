import Verdict.File.Tree
import Verdict.Proofs.Table

/-!
# Files: one tree within another

What a path leads to is looked up by names, so the order in which a directory lists its entries does
not matter, and an entry that is taken out only matters to what leads through it.

* `Node.Within`: what one tree has at the end of names, another has there too.
* `Node.Shuffled.within`: trees with the same entries in another order are within each other.
* `Node.without_within`, `Node.at?_without_apart`: a tree without what stands at the end of
  names is within it, and has everything else.
* `trace_within`: in the tree within, a way leads to the same place, or something is missing on it.

What leads somewhere has a path that is not too long; it gets no shorter with further names
(`Path.isTooLong_of_longer`).
-/

namespace Verdict.File

/-! ### Lengths of paths -/

namespace Path

/-- Nothing is written as a point, which is one byte. -/
theorem size_text (p : Path) :
    p.text.utf8ByteSize = max 1 (p.root ++ "/".intercalate p.names).utf8ByteSize := by
  unfold text
  dsimp only
  split
  · next empty =>
      rw [String.isEmpty_iff.mp empty]
      rfl
  · next nonempty =>
      have : (p.root ++ "/".intercalate p.names).utf8ByteSize ≠ 0 := by
        simpa [String.isEmpty] using nonempty
      omega

theorem size_intercalate_le (names more : List String) :
    ("/".intercalate names).utf8ByteSize ≤ ("/".intercalate (names ++ more)).utf8ByteSize := by
  by_cases first : names = []
  · simp [first]
  by_cases last : more = []
  · simp [last]
  rw [String.intercalate_append_of_ne_nil first last, String.utf8ByteSize_append,
    String.utf8ByteSize_append]
  omega

/-- A path that is not too long with further names is not too long without them. -/
theorem isTooLong_of_longer {p : Path} {names more : List String}
    (h : (p.join ⟨"", names ++ more⟩).isTooLong = false) :
    (p.join ⟨"", names⟩).isTooLong = false := by
  have shorter := size_intercalate_le (p.names ++ names) more
  simp only [isTooLong, decide_eq_false_iff_not, size_text, join, isAbsolute,
    String.utf8ByteSize_append, List.append_assoc] at h shorter ⊢
  simp only [bne_self_eq_false, Bool.false_eq_true, if_false] at h ⊢
  omega

/-- The path of a file is not too long: nor is that of the directory it is in. -/
theorem isTooLong_dropLast {p : Path} {names : List String}
    (h : (p.join ⟨"", names⟩).isTooLong = false) :
    (p.join ⟨"", names.dropLast⟩).isTooLong = false := by
  by_cases empty : names = []
  · simpa [empty] using h
  · rw [← List.dropLast_append_getLast empty] at h
    exact isTooLong_of_longer h

end Path

theorem openedBy_of_short {path : Path} (short : path.isTooLong = false) (bytes : List UInt8) :
    openedBy path bytes = .ok bytes := by
  rw [openedBy, short]
  rfl

theorem openedBy_eq_ok_iff {path : Path} {bytes bytes' : List UInt8} :
    openedBy path bytes = .ok bytes' ↔ path.isTooLong = false ∧ bytes = bytes' := by
  unfold openedBy
  split
  · next long => simp [long]
  · next short => simp [short]

namespace Node

/-- A tree in which every directory has different names for its entries, and none of them with a
separator. -/
inductive IsTidy : Node → Prop where
  | file {bytes : List UInt8} : IsTidy (.file bytes)
  | link {target : String} : IsTidy (.link target)
  | directory {entries : List (String × Node)} (distinct : (Table.keys entries).Nodup)
      (named : ∀ name node, (name, node) ∈ entries → '/' ∉ name.toList)
      (inner : ∀ name node, (name, node) ∈ entries → node.IsTidy) : IsTidy (.directory entries)

/-! ### Lookups -/

/-- A node without what stands below it. -/
def surface : Node → Node
  | .directory _ => .directory []
  | node => node

theorem eq_file_of_surface {node : Node} {bytes : List UInt8}
    (h : node.surface = .file bytes) : node = .file bytes := by
  cases node <;> simp_all [surface]

theorem eq_link_of_surface {node : Node} {target : String}
    (h : node.surface = .link target) : node = .link target := by
  cases node <;> simp_all [surface]

theorem exists_of_surface_directory {node : Node} (h : node.surface = .directory []) :
    ∃ entries, node = .directory entries := by
  cases node <;> simp_all [surface]

theorem at?_append : ∀ (before after : List String) (node : Node),
    node.at? (before ++ after) = (node.at? before).bind (·.at? after)
  | [], _, node => by cases node <;> rfl
  | name :: rest, after, .directory entries => by
      simp only [List.cons_append, at?, Option.bind_assoc]
      exact Option.bind_congr fun child _ => at?_append rest after child
  | _ :: _, _, .file _ => rfl
  | _ :: _, _, .link _ => rfl

theorem at?_child {root : Node} {place : List String} {entries : List (String × Node)}
    (here : root.at? place = some (.directory entries)) (name : String) :
    root.at? (place ++ [name]) = Table.get? entries name := by
  rw [at?_append, here, Option.bind_some, at?]
  cases Table.get? entries name with
  | none => rfl
  | some child => cases child <;> rfl

/-- What the first tree has at the end of names, the second has there too, up to what is below. -/
def Within (inner outer : Node) : Prop :=
  ∀ names found, inner.at? names = some found →
    ∃ found', outer.at? names = some found' ∧ found'.surface = found.surface

section Within

variable {inner outer : Node} {names : List String}

theorem Within.file (h : inner.Within outer) {bytes : List UInt8}
    (found : inner.at? names = some (.file bytes)) : outer.at? names = some (.file bytes) := by
  obtain ⟨found', there, same⟩ := h _ _ found
  rw [there, eq_file_of_surface same]

theorem Within.link (h : inner.Within outer) {target : String}
    (found : inner.at? names = some (.link target)) : outer.at? names = some (.link target) := by
  obtain ⟨found', there, same⟩ := h _ _ found
  rw [there, eq_link_of_surface same]

theorem Within.directory (h : inner.Within outer) {entries : List (String × Node)}
    (found : inner.at? names = some (.directory entries)) :
    ∃ entries', outer.at? names = some (.directory entries') := by
  obtain ⟨found', there, same⟩ := h _ _ found
  obtain ⟨entries', rfl⟩ := exists_of_surface_directory same
  exact ⟨entries', there⟩

theorem Within.entry (h : inner.Within outer) {place : List String}
    {entries entries' : List (String × Node)} (here : inner.at? place = some (.directory entries))
    (there : outer.at? place = some (.directory entries')) {name : String} {child : Node}
    (entry : Table.get? entries name = some child) :
    ∃ child', Table.get? entries' name = some child' ∧ child'.surface = child.surface := by
  rw [← at?_child here] at entry
  rw [← at?_child there]
  exact h _ _ entry

theorem Within.link_entry (h : inner.Within outer) {place : List String}
    {entries entries' : List (String × Node)} (here : inner.at? place = some (.directory entries))
    (there : outer.at? place = some (.directory entries')) {name target : String}
    (entry : Table.get? entries name = some (.link target)) :
    Table.get? entries' name = some (.link target) := by
  rw [← at?_child here] at entry
  rw [← at?_child there]
  exact h.link entry

end Within

/-! ### Tidy trees -/

theorem IsTidy.at? {names : List String} : ∀ {node found : Node}, node.IsTidy →
    node.at? names = some found → found.IsTidy := by
  induction names with
  | nil =>
      intro node found tidy there
      cases node <;> exact Option.some.inj there ▸ tidy
  | cons name rest ih =>
      intro node found tidy there
      cases tidy with
      | file | link => cases there
      | directory distinct named inner =>
          obtain ⟨child, entry, there⟩ := Option.bind_eq_some_iff.mp there
          exact ih (inner _ _ (Table.mem_of_get? entry)) there

/-! ### Another order -/

/-- Trees with the same entries, each of their directories in an order of its own. -/
inductive Shuffled : Node → Node → Prop where
  | file {bytes : List UInt8} : Shuffled (.file bytes) (.file bytes)
  | link {target : String} : Shuffled (.link target) (.link target)
  | directory {entries entries' : List (String × Node)}
      (names : (Table.keys entries).Perm (Table.keys entries'))
      (inner : ∀ name child child', (name, child) ∈ entries → (name, child') ∈ entries' →
        child.Shuffled child') : Shuffled (.directory entries) (.directory entries')

namespace Shuffled

variable {node node' : Node}

theorem symm (h : Shuffled node node') : Shuffled node' node := by
  induction h with
  | file => exact .file
  | link => exact .link
  | directory names inner ih =>
      exact .directory names.symm fun name child child' entry entry' => ih _ _ _ entry' entry

theorem surface (h : Shuffled node node') : node'.surface = node.surface := by
  cases h <;> rfl

theorem tidy (h : Shuffled node node') (tidy : node.IsTidy) : node'.IsTidy := by
  induction h with
  | file | link => exact tidy
  | @directory entries entries' names inner ih =>
      cases tidy with
      | directory distinct named below =>
          have entry_of {name : String} {child' : Node} (entry' : (name, child') ∈ entries') :
              ∃ child, (name, child) ∈ entries := by
            have key : name ∈ Table.keys entries :=
              names.mem_iff.mpr (List.mem_map_of_mem entry')
            obtain ⟨⟨_, child⟩, entry, rfl⟩ := List.mem_map.mp key
            exact ⟨child, entry⟩
          refine .directory (names.nodup_iff.mp distinct) ?_ ?_
          · intro name child' entry'
            obtain ⟨child, entry⟩ := entry_of entry'
            exact named _ _ entry
          · intro name child' entry'
            obtain ⟨child, entry⟩ := entry_of entry'
            exact ih _ _ _ entry entry' (below _ _ entry)

theorem get? {entries entries' : List (String × Node)}
    (h : Shuffled (.directory entries) (.directory entries')) {name : String} {child : Node}
    (entry : Table.get? entries name = some child) :
    ∃ child', Table.get? entries' name = some child' ∧ Shuffled child child' := by
  cases h with
  | directory names inner =>
      have paired := Table.mem_of_get? entry
      have key : name ∈ Table.keys entries' := names.mem_iff.mp (List.mem_map_of_mem paired)
      obtain ⟨child', entry'⟩ := Option.isSome_iff_exists.mp (Table.has_iff_mem_keys.mpr key)
      exact ⟨child', entry', inner _ _ _ paired (Table.mem_of_get? entry')⟩

/-- **Another order of entries** leaves a tree within the other. -/
theorem within (h : Shuffled node node') : node.Within node' := by
  intro names
  induction names generalizing node node' with
  | nil =>
      intro found there
      refine ⟨node', by cases node' <;> rfl, ?_⟩
      obtain rfl : node = found := by cases node <;> exact Option.some.inj there
      exact h.surface
  | cons name rest ih =>
      intro found there
      cases node with
      | file | link => cases there
      | directory entries =>
          obtain ⟨child, entry, there⟩ := Option.bind_eq_some_iff.mp there
          cases node' with
          | file | link => cases h
          | directory entries' =>
              obtain ⟨child', entry', shuffled⟩ := h.get? entry
              obtain ⟨found', there', same⟩ := ih shuffled _ there
              exact ⟨found', Option.bind_eq_some_iff.mpr ⟨child', entry', there'⟩, same⟩

end Shuffled

/-! ### Taking out -/

/-- The tree without what stands at the end of names. -/
def without : Node → List String → Node
  | .directory entries, [name] => .directory (Table.erase entries name)
  | .directory entries, name :: rest =>
    match Table.get? entries name with
    | some child => .directory (Table.insert entries name (child.without rest))
    | none => .directory entries
  | node, _ => node

section Without

variable {node : Node} {gone names : List String}

/-- What stood at the end of the names is gone, with everything below it. -/
theorem at?_without_below (nonempty : gone ≠ []) (below : gone <+: names) :
    (node.without gone).at? names = none := by
  obtain ⟨rest, rfl⟩ := below
  fun_induction without node gone with
  | case1 entries name =>
      rw [List.singleton_append, at?, Table.get?_erase_self, Option.bind_none]
  | case2 entries name gone deep child entry ih =>
      rw [List.cons_append, at?, Table.get?_insert_self, Option.bind_some]
      exact ih deep
  | case3 entries name gone deep none =>
      rw [List.cons_append, at?, none, Option.bind_none]
  | case4 gone node notOne notMore =>
      obtain ⟨name, gone, rfl⟩ := List.exists_cons_of_ne_nil nonempty
      cases node with
      | file | link => rfl
      | directory entries => exact absurd rfl (notMore entries name gone rfl)

/-- Everything else is still there. -/
theorem at?_without_apart (apart : ¬gone <+: names) :
    ((node.without gone).at? names).map surface = (node.at? names).map surface := by
  fun_induction without node gone generalizing names with
  | case1 entries name =>
      cases names with
      | nil => rfl
      | cons other rest =>
          have different : other ≠ name := by
            rintro rfl
            exact apart (List.prefix_append [other] rest)
          rw [at?, at?, Table.get?_erase_of_ne different]
  | case2 entries name gone deep child entry ih =>
      cases names with
      | nil => rfl
      | cons other rest =>
          by_cases same : name = other
          · subst same
            rw [at?, at?, Table.get?_insert_self, entry, Option.bind_some, Option.bind_some]
            exact ih fun below => apart (List.cons_prefix_cons.mpr ⟨rfl, below⟩)
          · rw [at?, at?, Table.get?_insert_of_ne _ _ same]
  | case3 | case4 => rfl

/-- A tree without something is within the tree. -/
theorem without_within (node : Node) (gone : List String) : (node.without gone).Within node := by
  intro names found there
  by_cases below : gone <+: names
  · cases gone with
    | nil =>
        have whole : node.without [] = node := by cases node <;> rfl
        exact ⟨found, whole ▸ there, rfl⟩
    | cons name rest =>
        rw [at?_without_below (List.cons_ne_nil name rest) below] at there
        cases there
  · have same : ((node.without gone).at? names).map surface = _ := at?_without_apart below
    rw [there] at same
    obtain ⟨found', there', surface⟩ := Option.map_eq_some_iff.mp same.symm
    exact ⟨found', there', surface⟩

theorem IsTidy.without (tidy : node.IsTidy) : (node.without gone).IsTidy := by
  fun_induction Node.without node gone with
  | case1 entries name =>
      cases tidy with
      | directory distinct named inner =>
          have kept {other : String} {child : Node}
              (entry : (other, child) ∈ Table.erase entries name) : (other, child) ∈ entries :=
            List.mem_of_mem_filter entry
          refine .directory (distinct.sublist (List.filter_sublist.map _)) ?_ ?_
          · exact fun other child entry => named _ _ (kept entry)
          · exact fun other child entry => inner _ _ (kept entry)
  | case2 entries name gone deep child entry ih =>
      cases tidy with
      | directory distinct named inner =>
          have distinct' := Table.nodup_keys_insert distinct name (child.without gone)
          have entry_cases {other : String} {node : Node}
              (entry' : (other, node) ∈ Table.insert entries name (child.without gone)) :
              other = name ∧ node = child.without gone ∨ (other, node) ∈ entries := by
            rw [← Table.get?_eq_some_iff distinct'] at entry'
            by_cases same : name = other
            · subst same
              rw [Table.get?_insert_self] at entry'
              exact .inl ⟨rfl, (Option.some.inj entry').symm⟩
            · rw [Table.get?_insert_of_ne _ _ same] at entry'
              exact .inr (Table.mem_of_get? entry')
          refine .directory distinct' ?_ ?_
          · intro other node entry'
            rcases entry_cases entry' with ⟨rfl, rfl⟩ | old
            · exact named _ _ (Table.mem_of_get? entry)
            · exact named _ _ old
          · intro other node entry'
            rcases entry_cases entry' with ⟨rfl, rfl⟩ | old
            · exact ih (inner _ _ (Table.mem_of_get? entry))
            · exact inner _ _ old
  | case3 | case4 => exact tidy

end Without

end Node

/-! ### Ways -/

section Ways

variable {inner outer : Node}

/-- A name that can be that of an entry: no step to the same or the upper directory, and not too
long. -/
def IsProper (name : String) : Prop :=
  name ≠ ".." ∧ name ≠ "." ∧ name.utf8ByteSize ≤ maxNameBytes

instance (name : String) : Decidable (IsProper name) :=
  inferInstanceAs (Decidable (_ ∧ _ ∧ _))

section Step

variable {root : Node} {links : Nat} {place rest : List String} {entries : List (String × Node)}
  {name : String}

/-- A step to an entry that is no link. -/
theorem trace_step (proper : IsProper name) (here : root.at? place = some (.directory entries))
    {child : Node} (entry : Table.get? entries name = some child)
    (noLink : ∀ target, child ≠ .link target) {follows : Bool} :
    trace root follows links place (name :: rest) =
      trace root follows links (place ++ [name]) rest := by
  obtain ⟨up, same, short⟩ := proper
  rw [trace]
  cases child with
  | link target => exact absurd rfl (noLink target)
  | file | directory => simp [here, up, same, entry, Nat.not_lt.mpr short]

/-- A step to nothing. -/
theorem trace_none (proper : IsProper name) (here : root.at? place = some (.directory entries))
    (none : Table.get? entries name = none) {follows : Bool} :
    trace root follows links place (name :: rest) = .error .missing := by
  obtain ⟨up, same, short⟩ := proper
  rw [trace]
  simp [here, up, same, none, Nat.not_lt.mpr short]

/-- A step through a link. -/
theorem trace_link (proper : IsProper name) (here : root.at? place = some (.directory entries))
    {target : String} (entry : Table.get? entries name = some (.link target)) :
    trace root true (links + 1) place (name :: rest) =
      trace root true links (if (Path.ofText target).isAbsolute then [] else place)
        (Path.stepsOf target ++ rest) := by
  obtain ⟨up, same, short⟩ := proper
  rw [trace]
  simp [here, up, same, entry, Nat.not_lt.mpr short]

end Step

/-- **A way in a tree within another** leads to the place to which it leads there, unless something
on it is missing. -/
theorem trace_within (within_ : inner.Within outer) (follows : Bool) (links : Nat)
    (place names : List String) :
    trace inner follows links place names = trace outer follows links place names ∨
      ∃ fault, trace inner follows links place names = .error fault ∧ fault.isAbsence = true := by
  fun_induction trace inner follows links place names with
  | case1 => exact .inl (by rw [trace])
  | case2 links place name rest entries here up ih =>
      obtain ⟨entries', there⟩ := within_.directory here
      rw [trace.eq_def outer]
      simpa only [there, up, if_true] using ih
  | case3 links place name rest entries here up same ih =>
      obtain ⟨entries', there⟩ := within_.directory here
      rw [trace.eq_def outer]
      simpa only [there, up, same, Bool.false_eq_true, if_true, if_false] using ih
  | case4 links place name rest entries here up same long =>
      obtain ⟨entries', there⟩ := within_.directory here
      rw [trace.eq_def outer]
      simp only [there, up, same, long, Bool.false_eq_true, if_true, if_false, true_or]
  | case5 | case10 => exact .inr ⟨_, rfl, rfl⟩
  | case6 links place name rest entries here up same short target entry last =>
      obtain ⟨entries', there⟩ := within_.directory here
      rw [trace.eq_def outer]
      simp only [there, up, same, short, within_.link_entry here there entry, last,
        Bool.false_eq_true, if_true, if_false, true_or]
  | case7 place name rest entries here up same short target entry last =>
      exact .inr ⟨_, rfl, rfl⟩
  | case8 place name rest entries here up same short target entry last links ih =>
      obtain ⟨entries', there⟩ := within_.directory here
      rw [trace.eq_def outer]
      simpa only [there, up, same, short, within_.link_entry here there entry, last,
        Bool.false_eq_true, if_false, dite_eq_ite] using ih
  | case9 links place name rest entries here up same short child noLink entry ih =>
      obtain ⟨entries', there⟩ := within_.directory here
      obtain ⟨child', entry', surface⟩ := within_.entry here there entry
      rw [trace.eq_def outer]
      cases child' with
      | link target => cases noLink target (Node.eq_link_of_surface surface.symm)
      | file | directory =>
          simpa only [there, up, same, short, entry', Bool.false_eq_true, if_false] using ih

namespace System

variable {fs fs' : System}

/-- The files of a system with another tree. -/
def withRoot (fs : System) (root : Node) : System := { fs with root }

/-- What a path leads to is at the place to which it leads. -/
theorem find_of_locate {path : Path} {place : List String} {found : Node}
    (leads : fs.locate path = .ok place) (there : fs.root.at? place = some found) :
    fs.find path = .ok found := by
  simp [find, leads, there, bind, Except.bind, pure, Except.pure]

/-- Only a file can be read. -/
theorem find_of_read {path : Path} {bytes : List UInt8} (stored : fs.read path = .ok bytes) :
    fs.find path = .ok (.file bytes) := by
  cases found : fs.find path with
  | error fault => simp [read, found, bind, Except.bind] at stored
  | ok node =>
      cases node with
      | file => simpa [read, found, bind, Except.bind, pure, Except.pure] using stored
      | directory | link => simp [read, found, bind, Except.bind] at stored

/-- What is found has a path that is not too long. -/
theorem isTooLong_of_find {path : Path} {found : Node} (there : fs.find path = .ok found) :
    path.isTooLong = false := by
  rw [Bool.eq_false_iff]
  intro long
  simp [find, locate, long, bind, Except.bind] at there

/-- A path that leads to a place in the tree within leads there in the other. -/
theorem locate_within (within_ : fs'.root.Within fs.root)
    (same : fs'.workingDirectory = fs.workingDirectory) {path : Path} {follows : Bool}
    {place : List String} (leads : fs'.locate path follows = .ok place) :
    fs.locate path follows = .ok place := by
  unfold locate at leads ⊢
  split at leads
  · cases leads
  · next short =>
      rw [if_neg short, ← same]
      rcases trace_within within_ follows maxLinks
        (if path.isAbsolute then [] else fs'.workingDirectory) path.names with way | ⟨fault, lost, -⟩
      · rwa [← way]
      · cases lost.symm.trans leads

/-- Where a path leads to in the tree within: to the same node, up to what is below, or nowhere. -/
theorem find_within (within_ : fs'.root.Within fs.root)
    (same : fs'.workingDirectory = fs.workingDirectory) (path : Path) :
    (∃ fault, fs'.find path = .error fault ∧ fault.isAbsence = true) ∨
      (∃ fault, fs'.find path = .error fault ∧ fs.find path = .error fault) ∨
      ∃ found found', fs'.find path = .ok found ∧ fs.find path = .ok found' ∧
        found'.surface = found.surface := by
  unfold find locate
  split
  · exact .inr (.inl ⟨_, rfl, rfl⟩)
  · rw [same]
    rcases trace_within within_ true maxLinks
      (if path.isAbsolute then [] else fs.workingDirectory) path.names with way | ⟨fault, way, absence⟩
    · rw [way]
      cases trace fs.root true maxLinks (if path.isAbsolute then [] else fs.workingDirectory)
          path.names with
      | error fault => exact .inr (.inl ⟨fault, rfl, rfl⟩)
      | ok place =>
          cases here : fs'.root.at? place with
          | none => exact .inl ⟨.missing, by simp [bind, Except.bind, here], rfl⟩
          | some found =>
              obtain ⟨found', there, surface⟩ := within_ _ _ here
              refine .inr (.inr ⟨found, found', ?_, ?_, surface⟩)
              · simp [bind, Except.bind, here, pure, Except.pure]
              · simp [bind, Except.bind, there, pure, Except.pure]
    · exact .inl ⟨fault, by rw [way]; rfl, absence⟩

/-- What is read in the tree within is read in the other. -/
theorem read_within (within_ : fs'.root.Within fs.root)
    (same : fs'.workingDirectory = fs.workingDirectory) {path : Path} {bytes : List UInt8}
    (stored : fs'.read path = .ok bytes) : fs.read path = .ok bytes := by
  unfold read at stored ⊢
  rcases find_within within_ same path with ⟨fault, lost, -⟩ | ⟨fault, lost, -⟩ |
    ⟨found, found', here, there, surface⟩
  · rw [lost] at stored
    cases stored
  · rw [lost] at stored
    cases stored
  · rw [here] at stored
    rw [there]
    cases found with
    | file =>
        rw [Node.eq_file_of_surface surface]
        exact stored
    | directory | link => cases stored

/-- Trees that are within each other have something at the end of the same paths. -/
theorem exists?_alike (within_ : fs'.root.Within fs.root) (within' : fs.root.Within fs'.root)
    (same : fs'.workingDirectory = fs.workingDirectory) (path : Path) :
    fs'.exists? path = fs.exists? path := by
  unfold exists?
  split
  · rfl
  · rcases find_within within_ same path with ⟨fault, lost, absence⟩ | ⟨fault, lost, lost'⟩ |
      ⟨found, found', here, there, -⟩
    · rcases find_within within' same.symm path with ⟨fault', lost', absence'⟩ |
        ⟨fault', lost', lost''⟩ | ⟨found, found', there, here, -⟩
      · rw [lost, lost']
        simp only [absence, absence', if_true]
      · rw [lost', lost'']
      · cases lost.symm.trans here
    · rw [lost, lost']
    · rw [here, there]

end System

end Ways

end Verdict.File
