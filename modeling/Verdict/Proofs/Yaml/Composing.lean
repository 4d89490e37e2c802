import Verdict.Proofs.Yaml.Marks
import Verdict.Yaml.Content

/-!
# YAML: the node of a phrase

The tokens of a phrase are composed to its node (`node_marks`), and the node stands for the value of
the phrase (`valueOf_node`), if every plain scalar in it is read as the atom that it stands for.
-/

namespace Verdict.Json.Phrase

open Yaml

/-! ### Nodes -/

mutual

/-- The number of nodes that a phrase is composed to; the name of a member is one. -/
def size : Phrase → Nat
  | .text _ | .scalar .. => 1
  | .list items => 1 + sizes items
  | .mapping members => 1 + memberSizes members

/-- The number of nodes of items. -/
def sizes : List Phrase → Nat
  | [] => 0
  | p :: rest => size p + sizes rest

/-- The number of nodes of members. -/
def memberSizes : List (String × Phrase) → Nat
  | [] => 0
  | (_, p) :: rest => 1 + size p + memberSizes rest

end

mutual

/-- The node of a phrase, numbered from `number` on. -/
def node (number : Nat) : Phrase → Node
  | .text s => .scalar .text s
  | .scalar _ written => .scalar (tagOfPlain written) written
  | .list items => .sequence number .sequence (nodes (number + 1) items)
  | .mapping members => .mapping number .mapping (pairs (number + 1) members)

/-- The nodes of items. -/
def nodes (number : Nat) : List Phrase → List Node
  | [] => []
  | p :: rest => node number p :: nodes (number + size p) rest

/-- The nodes of members. -/
def pairs (number : Nat) : List (String × Phrase) → List (Node × Node)
  | [] => []
  | (name, p) :: rest =>
    (.scalar .text name, node (number + 1) p) :: pairs (number + (1 + size p)) rest

end

mutual

/-- The calls, one inside the other or one after another, in which a phrase is composed. -/
def calls : Phrase → Nat
  | .text _ | .scalar .. => 2
  | .list items => 2 + itemCalls items
  | .mapping members => 2 + memberCalls members

/-- The calls in which items are composed. -/
def itemCalls : List Phrase → Nat
  | [] => 1
  | p :: rest => 1 + calls p + itemCalls rest

/-- The calls in which members are composed. -/
def memberCalls : List (String × Phrase) → Nat
  | [] => 1
  | (_, p) :: rest => 4 + calls p + memberCalls rest

end

mutual

theorem calls_lt : ∀ p : Phrase, p.calls < 5 * p.marks.length
  | .text _ | .scalar .. => by simp [calls, marks]
  | .list items => by
      have h := itemCalls_le true items
      simp only [calls, marks, List.length_cons]
      omega
  | .mapping members => by
      have h := memberCalls_le true members
      simp only [calls, marks, List.length_cons]
      omega

theorem itemCalls_le : ∀ (first : Bool) (items : List Phrase),
    itemCalls items ≤ 5 * (itemMarks first items).length
  | _, [] => by simp [itemCalls, itemMarks]
  | first, p :: rest => by
      have hp := calls_lt p
      have hrest := itemCalls_le false rest
      simp only [itemCalls, itemMarks, List.length_append]
      omega

theorem memberCalls_le : ∀ (first : Bool) (members : List (String × Phrase)),
    memberCalls members ≤ 5 * (memberMarks first members).length
  | _, [] => by simp [memberCalls, memberMarks]
  | first, (name, p) :: rest => by
      have hp := calls_lt p
      have hrest := memberCalls_le false rest
      simp only [memberCalls, memberMarks, List.length_append, List.length_cons]
      omega

end

end Verdict.Json.Phrase

namespace Verdict.Yaml.Composing

open Json (Phrase)
open Json.Phrase

/-! ### Composing -/

theorem peek_eq (c : Composition) : peek c = .ok (c.tokens.head?, c) := rfl

theorem advance_eq (c : Composition) :
    advance c = .ok ((), { c with tokens := c.tokens.tail }) := rfl

theorem takeNumber_eq (c : Composition) :
    takeNumber c = .ok (c.count, { c with count := c.count + 1 }) := rfl

theorem advance_of_head {c : Composition} {t : Token} {rest : List Token}
    (h : c.tokens = t :: rest) : advance c = .ok ((), { c with tokens := rest }) := by
  rw [advance_eq, h]
  rfl

theorem accept_of_head {c : Composition} {t : Token} {rest : List Token}
    (h : c.tokens = t :: rest) : accept t c = .ok (true, { c with tokens := rest }) := by
  have same : (c.tokens.head? == some t) = true := by simp [h]
  unfold accept
  rw [bind_of_ok (peek_eq c), if_pos same, bind_of_ok (advance_of_head h)]
  rfl

theorem accept_of_other {c : Composition} {t u : Token} (h : c.tokens.head? = some u)
    (other : u ≠ t) : accept t c = .ok (false, c) := by
  have same : (c.tokens.head? == some t) = false := by simpa [h] using other
  unfold accept
  rw [bind_of_ok (peek_eq c), if_neg (by simp [same])]
  rfl

/-- A token with which a phrase begins. -/
def BeginsPhrase : Token → Prop
  | .scalar .. | .flowSequenceStart | .flowMappingStart => True
  | _ => False

theorem exists_marks_eq : ∀ p : Phrase, ∃ t more, p.marks = t :: more ∧ BeginsPhrase t
  | .text _ | .scalar .. | .list _ | .mapping _ => ⟨_, _, rfl, trivial⟩

/-- A node without a name and a tag is its content. -/
theorem node_of_begins {c : Composition} {t : Token} {rest : List Token}
    (h : c.tokens = t :: rest) (begins : BeginsPhrase t) (place : Place) (fuel : Nat) :
    Composing.node place (fuel + 1) c =
      content place {} c.count fuel { c with count := c.count + 1 } := by
  have next : c.tokens.head? = some t := by rw [h]; rfl
  have noName : takeName c = .ok (none, c) := by
    unfold takeName
    rw [bind_of_ok (peek_eq c), next]
    cases t <;> first | rfl | exact begins.elim
  have noTag : takeTag c = .ok (none, c) := by
    unfold takeTag
    rw [bind_of_ok (peek_eq c), next]
    cases t <;> first | rfl | exact begins.elim
  have noProperties : properties c = .ok ({}, c) := by
    unfold properties
    rw [bind_of_ok noName]
    simp only
    rw [bind_of_ok noTag]
    rfl
  have unnamed (s : Composition) : openName {} c.count s = .ok ((), s) := rfl
  have closed : (fun content => closeName {} c.count content) =
      (pure : Node → Composing Node) := rfl
  unfold Composing.node
  rw [bind_of_ok (peek_eq c), next]
  cases t with
  | scalar | flowSequenceStart | flowMappingStart =>
      dsimp only
      rw [bind_of_ok noProperties, bind_of_ok (takeNumber_eq c), bind_of_ok (unnamed _), closed,
        bind_pure]
  | _ => exact begins.elim

/-- Between items there is a mark, which comes before the first of them only. -/
theorem separated {α : Type} {c : Composition} {first : Bool} {rest : List Token}
    (h : c.tokens = (if first then [] else [.flowEntry]) ++ rest) (next : Unit → Composing α) :
    (if !first then do next (← expect .flowEntry) else next ()) c =
      next () { c with tokens := rest } := by
  cases first with
  | true =>
      obtain rfl : c.tokens = rest := h
      rfl
  | false =>
      have taken : expect .flowEntry c = .ok ((), { c with tokens := rest }) := by
        unfold expect
        rw [bind_of_ok (accept_of_head h)]
        rfl
      exact bind_of_ok taken

theorem nodeBefore_of_begins {c : Composition} {t : Token} {rest : List Token}
    (h : c.tokens = t :: rest) (begins : BeginsPhrase t) {ends : List Token}
    (noEnd : ∀ t ∈ ends, ¬ BeginsPhrase t) (place : Place) (fuel : Nat) :
    nodeBefore ends place (fuel + 1) c = Composing.node place fuel c := by
  have next : c.tokens.head? = some t := by rw [h]; rfl
  have absent : ends.contains t = false := by
    rw [← Bool.not_eq_true, List.contains_iff_mem]
    exact fun h => noEnd t h begins
  have before : atAny ends c = .ok (false, c) := by
    unfold atAny
    rw [bind_of_ok (peek_eq c), next]
    simp only [absent]
    rfl
  unfold nodeBefore
  rw [bind_of_ok before]
  rfl

/-- The content of a scalar. -/
theorem content_scalar {c : Composition} {text : String} {plain : Bool} {rest : List Token}
    (h : c.tokens = .scalar text plain :: rest) (place : Place) (number fuel : Nat) :
    content place {} number (fuel + 1) c =
      .ok (.scalar (if plain then tagOfPlain text else .text) text, { c with tokens := rest }) := by
  have next : c.tokens.head? = some (.scalar text plain) := by rw [h]; rfl
  unfold content
  dsimp only
  rw [bind_of_ok (peek_eq c), next]
  dsimp only
  rw [bind_of_ok (advance_of_head h)]
  rfl

/-- The content of a list is what its items are composed to. -/
theorem content_list {c c' : Composition} {rest : List Token} {items : List Node} {fuel : Nat}
    (h : c.tokens = .flowSequenceStart :: rest)
    (hitems : flowItems true fuel { c with tokens := rest } = .ok (items, c')) (place : Place)
    (number : Nat) :
    content place {} number (fuel + 1) c = .ok (.sequence number .sequence items, c') := by
  have next : c.tokens.head? = some .flowSequenceStart := by rw [h]; rfl
  unfold content
  dsimp only
  rw [bind_of_ok (peek_eq c), next]
  dsimp only
  rw [bind_of_ok (advance_of_head h),
    bind_of_ok hitems]
  rfl

/-- The content of a mapping is what its members are composed to. -/
theorem content_mapping {c c' : Composition} {rest : List Token} {pairs : List (Node × Node)}
    {fuel : Nat} (h : c.tokens = .flowMappingStart :: rest)
    (hpairs : flowPairs true fuel { c with tokens := rest } = .ok (pairs, c')) (place : Place)
    (number : Nat) :
    content place {} number (fuel + 1) c = .ok (.mapping number .mapping pairs, c') := by
  have next : c.tokens.head? = some .flowMappingStart := by rw [h]; rfl
  unfold content
  dsimp only
  rw [bind_of_ok (peek_eq c), next]
  dsimp only
  rw [bind_of_ok (advance_of_head h),
    bind_of_ok hpairs]
  rfl

/-- An item, and the items after it. -/
theorem flowItems_cons {c c₁ c₂ : Composition} {t : Token} {rest : List Token} {first : Bool}
    {fuel : Nat} {item : Node} {items : List Node}
    (h : c.tokens = (if first then [] else [.flowEntry]) ++ t :: rest) (begins : BeginsPhrase t)
    (hitem : Composing.node .ofFlow fuel { c with tokens := t :: rest } = .ok (item, c₁))
    (hitems : flowItems false fuel c₁ = .ok (items, c₂)) :
    flowItems first (fuel + 1) c = .ok (item :: items, c₂) := by
  have noEnd : accept .flowSequenceEnd c = .ok (false, c) := by
    cases first with
    | true => exact accept_of_other (by rw [h]; rfl) (by rintro rfl; exact begins)
    | false => exact accept_of_other (by rw [h]; rfl) (by simp)
  have other : ∀ u, ¬ BeginsPhrase u → accept u { c with tokens := t :: rest } =
      .ok (false, { c with tokens := t :: rest }) := fun u hu =>
    accept_of_other rfl (by rintro rfl; exact hu begins)
  unfold flowItems
  rw [bind_of_ok noEnd, if_neg Bool.false_ne_true]
  refine (separated h _).trans ?_
  rw [bind_of_ok (other .key id), if_neg Bool.false_ne_true,
    bind_of_ok (other .flowSequenceEnd id), if_neg Bool.false_ne_true, bind_of_ok hitem,
    bind_of_ok hitems]
  rfl

/-- A member, and the members after it. -/
theorem flowPairs_cons {c c₁ c₂ : Composition} {t : Token} {name : String} {rest : List Token}
    {first : Bool} {fuel : Nat} {entry : Node} {pairs : List (Node × Node)}
    (h : c.tokens = (if first then [] else [.flowEntry]) ++
      .key :: .scalar name false :: .value :: t :: rest) (begins : BeginsPhrase t)
    (hentry : Composing.node .ofFlow (fuel + 1)
      { c with tokens := t :: rest, count := c.count + 1 } = .ok (entry, c₁))
    (hpairs : flowPairs false (fuel + 3) c₁ = .ok (pairs, c₂)) :
    flowPairs first (fuel + 4) c = .ok ((.scalar .text name, entry) :: pairs, c₂) := by
  have noEnd : accept .flowMappingEnd c = .ok (false, c) := by
    cases first with
    | true => exact accept_of_other (by rw [h]; rfl) (by simp)
    | false => exact accept_of_other (by rw [h]; rfl) (by simp)
  have hname : nodeBefore [.value, .flowEntry, .flowMappingEnd] .ofFlow (fuel + 3)
      { c with tokens := .scalar name false :: .value :: t :: rest } =
        .ok (.scalar .text name,
          { c with tokens := .value :: t :: rest, count := c.count + 1 }) := by
    have before : ∀ t ∈ [Token.value, .flowEntry, .flowMappingEnd], ¬ BeginsPhrase t := by
      simp [BeginsPhrase]
    have isScalar : BeginsPhrase (.scalar name false) := trivial
    rw [nodeBefore_of_begins rfl isScalar before, node_of_begins rfl isScalar]
    exact content_scalar
      (c := { c with tokens := .scalar name false :: .value :: t :: rest, count := c.count + 1 })
      rfl _ _ _
  have hvalue : nodeAfter .value [.flowEntry, .flowMappingEnd] .ofFlow (fuel + 3)
      { c with tokens := .value :: t :: rest, count := c.count + 1 } = .ok (entry, c₁) := by
    unfold nodeAfter
    rw [bind_of_ok (accept_of_head rfl), if_pos rfl,
      nodeBefore_of_begins rfl begins (by simp [BeginsPhrase])]
    exact hentry
  unfold flowPairs
  rw [bind_of_ok noEnd, if_neg Bool.false_ne_true]
  refine (separated h _).trans ?_
  rw [bind_of_ok (accept_of_head rfl), if_pos rfl, bind_of_ok hname, bind_of_ok hvalue,
    bind_of_ok hpairs]
  rfl

mutual

/-- **The tokens of a phrase** are composed to its node. -/
theorem node_marks : ∀ (p : Phrase) {place : Place} {fuel : Nat} {c : Composition}
    {rest : List Token}, p.calls ≤ fuel → c.tokens = p.marks ++ rest →
    Composing.node place fuel c =
      .ok (p.node c.count, { c with tokens := rest, count := c.count + p.size })
  | p, _, 0, _, _, enough, _ => by cases p <;> simp [calls] at enough
  | p, _, 1, _, _, enough, _ => by cases p <;> simp [calls] at enough; all_goals omega
  | .text s, _, fuel + 2, c, _, _, h => by
      rw [node_of_begins h trivial]
      exact content_scalar (c := { c with count := c.count + 1 }) h _ _ _
  | .scalar a written, _, fuel + 2, c, _, _, h => by
      rw [node_of_begins h trivial]
      exact content_scalar (c := { c with count := c.count + 1 }) h _ _ _
  | .list items, _, fuel + 2, c, rest, enough, h => by
      rw [node_of_begins h trivial]
      have hitems : flowItems true fuel
          { c with tokens := itemMarks true items ++ rest, count := c.count + 1 } =
            .ok (nodes (c.count + 1) items,
              { c with tokens := rest, count := c.count + 1 + sizes items }) :=
        flowItems_marks items (by simp only [calls] at enough; omega) rfl
      rw [content_list (c := { c with count := c.count + 1 }) h hitems, Nat.add_assoc]
      rfl
  | .mapping members, _, fuel + 2, c, rest, enough, h => by
      rw [node_of_begins h trivial]
      have hpairs : flowPairs true fuel
          { c with tokens := memberMarks true members ++ rest, count := c.count + 1 } =
            .ok (pairs (c.count + 1) members,
              { c with tokens := rest, count := c.count + 1 + memberSizes members }) :=
        flowPairs_marks members (by simp only [calls] at enough; omega) rfl
      rw [content_mapping (c := { c with count := c.count + 1 }) h hpairs, Nat.add_assoc]
      rfl

theorem flowItems_marks : ∀ (items : List Phrase) {first : Bool} {fuel : Nat} {c : Composition}
    {rest : List Token}, itemCalls items ≤ fuel → c.tokens = itemMarks first items ++ rest →
    flowItems first fuel c =
      .ok (nodes c.count items, { c with tokens := rest, count := c.count + sizes items })
  | [], _, 0, _, _, enough, _ => by simp [itemCalls] at enough
  | _ :: _, _, 0, _, _, enough, _ => by simp [itemCalls] at enough
  | [], first, fuel + 1, c, rest, _, h => by
      unfold flowItems
      rw [bind_of_ok (accept_of_head h)]
      rfl
  | p :: more, first, fuel + 1, c, rest, enough, h => by
      simp only [itemCalls] at enough
      obtain ⟨t, others, hp, begins⟩ := exists_marks_eq p
      have hitem : Composing.node .ofFlow fuel
          { c with tokens := p.marks ++ (itemMarks false more ++ rest) } =
            .ok (p.node c.count,
              { c with tokens := itemMarks false more ++ rest, count := c.count + p.size }) :=
        node_marks p (by omega) rfl
      have hmore : flowItems false fuel
          { c with tokens := itemMarks false more ++ rest, count := c.count + p.size } =
            .ok (nodes (c.count + p.size) more,
              { c with tokens := rest, count := c.count + p.size + sizes more }) :=
        flowItems_marks more (by omega) rfl
      have tokens : c.tokens = (if first then [] else [.flowEntry]) ++
          t :: (others ++ (itemMarks false more ++ rest)) := by
        rw [h, itemMarks, hp]
        simp
      rw [hp] at hitem
      rw [flowItems_cons tokens begins hitem hmore, Nat.add_assoc]
      rfl

theorem flowPairs_marks : ∀ (members : List (String × Phrase)) {first : Bool} {fuel : Nat}
    {c : Composition} {rest : List Token}, memberCalls members ≤ fuel →
    c.tokens = memberMarks first members ++ rest →
    flowPairs first fuel c =
      .ok (pairs c.count members, { c with tokens := rest, count := c.count + memberSizes members })
  | [], _, 0, _, _, enough, _ => by simp [memberCalls] at enough
  | [], first, fuel + 1, c, rest, _, h => by
      unfold flowPairs
      rw [bind_of_ok (accept_of_head h)]
      rfl
  | (name, p) :: more, first, fuel + 4, c, rest, enough, h => by
      simp only [memberCalls] at enough
      obtain ⟨t, others, hp, begins⟩ := exists_marks_eq p
      have hentry : Composing.node .ofFlow (fuel + 1)
          { c with tokens := p.marks ++ (memberMarks false more ++ rest), count := c.count + 1 } =
            .ok (p.node (c.count + 1),
              { c with tokens := memberMarks false more ++ rest, count := c.count + 1 + p.size }) :=
        node_marks p (by omega) rfl
      have hmore : flowPairs false (fuel + 3)
          { c with tokens := memberMarks false more ++ rest, count := c.count + 1 + p.size } =
            .ok (pairs (c.count + 1 + p.size) more,
              { c with tokens := rest, count := c.count + 1 + p.size + memberSizes more }) :=
        flowPairs_marks more (by omega) rfl
      have tokens : c.tokens = (if first then [] else [.flowEntry]) ++ .key ::
          .scalar name false :: .value :: t :: (others ++ (memberMarks false more ++ rest)) := by
        rw [h, memberMarks, hp]
        simp
      rw [hp] at hentry
      rw [flowPairs_cons tokens begins hentry hmore]
      simp only [pairs, memberSizes, Nat.add_assoc]
  -- with less fuel the calls for a member would not come to its value
  | _ :: _, _, 0, _, _, enough, _ => by simp [memberCalls] at enough
  | _ :: _, _, 1, _, _, enough, _ => by simp only [memberCalls] at enough; omega
  | _ :: _, _, 2, _, _, enough, _ => by simp only [memberCalls] at enough; omega
  | _ :: _, _, 3, _, _, enough, _ => by simp only [memberCalls] at enough; omega

end

/-- The tokens of a phrase are the document of its node. -/
theorem document_marks (p : Phrase) :
    Tree.ofTokens? p.marks = .ok (some ⟨p.node 0, [], p.size⟩) := by
  obtain ⟨t, more, hp, begins⟩ := exists_marks_eq p
  -- the fuel of the reader is given by the number of tokens
  have enough : p.calls ≤ 5 * p.marks.length + 10 := by
    have := calls_lt p
    omega
  have first : p.marks.head? = some t := by rw [hp]; rfl
  have unmarked : isMarked (some t) = false := by
    cases t <;> first | rfl | exact begins.elim
  have root : firstDocument (5 * p.marks.length + 10) { tokens := p.marks } =
      .ok (p.node 0, { tokens := [], handles := defaultHandles, count := p.size }) := by
    unfold firstDocument
    rw [bind_of_ok (peek_eq _)]
    simp only [first, unmarked, Bool.false_eq_true, if_false]
    have composed : Composing.node .ofBlock (5 * p.marks.length + 10)
        { tokens := p.marks, handles := defaultHandles } =
          .ok (p.node 0, { tokens := [], handles := defaultHandles, count := 0 + p.size }) :=
      node_marks p enough (List.append_nil _).symm
    rw [Nat.zero_add] at composed
    exact composed
  have whole : document (5 * p.marks.length + 10) { tokens := p.marks } =
      .ok (some (p.node 0), { tokens := [], handles := defaultHandles, count := p.size }) := by
    unfold document
    rw [bind_of_ok (peek_eq _)]
    simp only [first, Option.isNone_some, Bool.false_eq_true, if_false]
    rw [bind_of_ok root]
    rfl
  unfold Tree.ofTokens?
  rw [StateT.run, whole]
  rfl

end Verdict.Yaml.Composing

namespace Verdict.Yaml

open Json (Phrase Sign)
open Json.Phrase

/-! ### Values -/

/-- The characters are a plain scalar that stands for the atom. -/
structure WritesPlain (written : String) (a : Atom) : Prop where
  single : (tagOfPlain written).isCollection = false
  atom : (tagOfPlain written).atom written = .ok a

/-- The plain scalars among signs stand for their atoms. -/
def ArePlain (signs : List Sign) : Prop :=
  ∀ a written, (.scalar a, written) ∈ signs → WritesPlain written a

theorem ArePlain.mono {ss ts : List Sign} (h : ArePlain ts) (sub : ∀ sign ∈ ss, sign ∈ ts) :
    ArePlain ss :=
  fun a written hsign => h a written (sub _ hsign)

theorem both_ok {α β : Type} {x : Read α} {y : Read β} {a : α} {b : β} (hx : x = .ok a)
    (hy : y = .ok b) : both x y = .ok (a, b) := by
  rw [hx, hy]
  rfl

theorem each_cons_ok {α β : Type} {f : α → Read β} {x : α} {rest : List α} {b : β} {bs : List β}
    (hx : f x = .ok b) (hrest : each f rest = .ok bs) : each f (x :: rest) = .ok (b :: bs) := by
  rw [each, both_ok hx hrest]
  rfl

/-- The names of members are no keys of another kind. -/
theorem tag_of_mem_pairs : ∀ {members : List (String × Phrase)} {number : Nat} {pair : Node × Node},
    pair ∈ pairs number members → ∃ name, pair.1 = .scalar .text name
  | (name, p) :: rest, number, pair, h => by
      rcases List.mem_cons.mp h with rfl | h
      · exact ⟨name, rfl⟩
      · exact tag_of_mem_pairs h

/-- Members borrow nothing. -/
theorem withLent_pairs (s : Surroundings) (lending : List Nat) (members : List (String × Phrase))
    (number fuel : Nat) :
    s.withLent lending (pairs number members) (fuel + 1) = pairs number members := by
  -- the tag of a name is that of texts, never the one that borrows
  have borrowing : (pairs number members).filter (·.1.tag = .merge) = [] := by
    refine List.filter_eq_nil_iff.mpr fun pair hpair => ?_
    obtain ⟨name, hname⟩ := tag_of_mem_pairs hpair
    simp [hname, Node.tag]
  have own : Node.ownPairs (pairs number members) = pairs number members := by
    have all : (pairs number members).filter (·.1.tag ≠ .merge) = pairs number members := by
      refine List.filter_eq_self.mpr fun pair hpair => ?_
      obtain ⟨name, hname⟩ := tag_of_mem_pairs hpair
      simp [hname, Node.tag]
    rw [Node.ownPairs, all]
    refine (List.map_congr_left fun pair hpair => ?_).trans (List.map_id _)
    obtain ⟨name, hname⟩ := tag_of_mem_pairs hpair
    obtain ⟨key, entry⟩ := pair
    obtain rfl : key = .scalar .text name := hname
    rfl
  unfold Surroundings.withLent
  simp only [borrowing, own]
  rfl

mutual

/-- **The node of a phrase** stands for its value. -/
theorem valueOf_node : ∀ (p : Phrase) {s : Surroundings} {depth fuel number : Nat},
    p.size ≤ fuel → ArePlain p.signs → valueOf s depth fuel (p.node number) = .ok p.value
  | p, _, _, 0, _, enough, _ => by cases p <;> simp [size] at enough
  | .text s, _, _, fuel + 1, _, _, _ => rfl
  | .scalar a written, _, depth, fuel + 1, _, _, plain => by
      obtain ⟨single, atom⟩ := plain a written (List.mem_singleton_self _)
      unfold valueOf
      simp only [Phrase.node, scalarValue, single, atom]
      rfl
  | .list items, s, depth, fuel + 1, number, enough, plain => by
      have inner : ArePlain (itemSigns true items) :=
        plain.mono fun sign h => List.mem_cons_of_mem _ h
      have hitems : each (valueOf (s.within (some (Phrase.node number (.list items)))) (depth + 1)
          fuel) (nodes (number + 1) items) = .ok (values items) :=
        each_nodes items (by simp only [size] at enough; omega) inner
      rw [Phrase.node] at hitems ⊢
      unfold valueOf
      dsimp only
      rw [hitems]
      rfl
  | .mapping members, s, depth, fuel + 1, number, enough, plain => by
      have inner : ArePlain (memberSigns true members) :=
        plain.mono fun sign h => List.mem_cons_of_mem _ h
      show valueOf s depth (fuel + 1) (.mapping number .mapping (pairs (number + 1) members)) = _
      unfold valueOf
      simp only [withLent_pairs]
      rw [each_pairs members (by simp only [size] at enough; omega) inner]
      rfl

theorem each_nodes : ∀ (items : List Phrase) {s : Surroundings} {depth fuel number : Nat}
    {first : Bool}, sizes items ≤ fuel → ArePlain (itemSigns first items) →
    each (valueOf s depth fuel) (nodes number items) = .ok (values items)
  | [], _, _, _, _, _, _, _ => rfl
  | p :: rest, s, depth, fuel, number, first, enough, plain => by
      simp only [sizes] at enough
      have hp : ArePlain p.signs := plain.mono fun sign h => by simp [itemSigns, h]
      have hrest : ArePlain (itemSigns false rest) := plain.mono fun sign h => by
        simp [itemSigns, h]
      exact each_cons_ok (valueOf_node p (by omega) hp) (each_nodes rest (by omega) hrest)

theorem each_pairs : ∀ (members : List (String × Phrase)) {s : Surroundings}
    {depth fuel number : Nat} {first : Bool}, memberSizes members ≤ fuel →
    ArePlain (memberSigns first members) →
    each (fun pair => both
      (if (s.resolve? pair.1).any (·.tag.isCollection) then .error (depth, .malformed)
        else valueOf s depth fuel pair.1 >>= keyOf depth)
      (valueOf s depth fuel pair.2)) (pairs number members) = .ok (entries members)
  | [], _, _, _, _, _, _, _ => rfl
  | _ :: _, _, _, 0, _, _, enough, _ => by simp only [memberSizes] at enough; omega
  | (name, p) :: rest, s, depth, fuel + 1, number, first, enough, plain => by
      simp only [memberSizes] at enough
      have hp : ArePlain p.signs := plain.mono fun sign h => by simp [memberSigns, h]
      have hrest : ArePlain (memberSigns false rest) := plain.mono fun sign h => by
        simp [memberSigns, h]
      have entry : valueOf s depth (fuel + 1) (p.node (number + 1)) = .ok p.value :=
        valueOf_node p (by omega) hp
      exact each_cons_ok (both_ok rfl entry) (each_pairs rest (by omega) hrest)

end

/-- **What a phrase is read as** in YAML: its value, if its plain scalars stand for their atoms. -/
theorem read_of_scan {text : List Char} {p : Phrase} (scanned : scan text = .ok p.marks)
    (plain : ArePlain p.signs) : read text = .ok (some p.value) := by
  have value : Tree.toValue ⟨p.node 0, [], p.size⟩ = .ok p.value := by
    have enough : p.size ≤ 2 * p.size + 2 := by omega
    rw [Tree.toValue, valueOf_node p enough plain]
    rfl
  unfold read
  rw [scanned]
  show (Tree.ofTokens? p.marks >>= fun tree? => _) = _
  rw [Composing.document_marks]
  show (Tree.toValue ⟨p.node 0, [], p.size⟩ >>= fun v => _) = _
  rw [value]
  rfl

end Verdict.Yaml
