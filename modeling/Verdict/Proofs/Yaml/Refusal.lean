import Verdict.Proofs.Yaml.Codes
import Verdict.Yaml.Content

/-!
# YAML: how a text is refused

A text is refused as malformed, or otherwise: by an escape for a code of no character, or by a
scalar that cannot be given the type that its tag promises.  Composing refuses tokens as malformed
only.  In the reading of a document a fault is carried outwards from the node where it is met, and
of several the nearest to the root is kept; so one that is no malformation comes from a node that
stands in the document, whatever aliases and borrowed pairs lead to it.

* `Tree.ofTokens?_error`: tokens that make no document are malformed.
* `blames_valueOf`, `Tree.holdsMisread_of_toValue`: a document that fails otherwise holds a node
  that is misread.
* `isMiswritten_of_fails`: what a text holds whose reading fails otherwise.
-/

open Std.Do

set_option mvcgen.warning false

namespace Verdict.Yaml

/-! ### Composing -/

namespace Composing

/-- A step of composing ends, or in the fault of what is malformed. -/
abbrev refusing {α : Type} : PostCond α (.arg Composition (.except Fault .pure)) :=
  post⟨fun _ _ => ⌜True⌝, fun fault => ⌜fault = .malformed⌝⟩

/-- Tokens are refused as malformed only. -/
abbrev OnlyMalformed {α : Type} (m : Composing α) : Prop := ⦃⌜True⌝⦄ m ⦃refusing⦄

variable {α : Type}

@[spec]
theorem fail_onlyMalformed : OnlyMalformed (fail : Composing α) :=
  triple_iff.mpr fun _ _ => rfl

@[spec]
theorem peek_onlyMalformed : OnlyMalformed peek := by
  mvcgen [peek]

@[spec]
theorem advance_onlyMalformed : OnlyMalformed advance := by
  mvcgen [advance]

@[spec]
theorem accept_onlyMalformed (t : Token) : OnlyMalformed (accept t) := by
  mvcgen [accept]

@[spec]
theorem expect_onlyMalformed (t : Token) : OnlyMalformed (expect t) := by
  mvcgen [expect]

@[spec]
theorem atAny_onlyMalformed (ts : List Token) : OnlyMalformed (atAny ts) := by
  mvcgen [atAny]

@[spec]
theorem directives_onlyMalformed (fuel : Nat) (versioned : Bool) (handles : Table String String) :
    OnlyMalformed (directives versioned handles fuel) := by
  induction fuel generalizing versioned handles with
  | zero => mvcgen [directives]
  | succ fuel ih => mvcgen [directives, ih]

@[spec]
theorem takeName_onlyMalformed : OnlyMalformed takeName := by
  mvcgen [takeName]

@[spec]
theorem takeTag_onlyMalformed : OnlyMalformed takeTag := by
  mvcgen [takeTag]

@[spec]
theorem properties_onlyMalformed : OnlyMalformed properties := by
  mvcgen [properties]

@[spec]
theorem takeNumber_onlyMalformed : OnlyMalformed takeNumber := by
  mvcgen [takeNumber]

@[spec]
theorem openName_onlyMalformed (p : Properties) (number : Nat) :
    OnlyMalformed (openName p number) := by
  mvcgen [openName]

@[spec]
theorem closeName_onlyMalformed (p : Properties) (number : Nat) (node : Node) :
    OnlyMalformed (closeName p number node) := by
  mvcgen [closeName]

@[spec]
theorem named_onlyMalformed (name : String) : OnlyMalformed (named name) := by
  mvcgen [named]

/-- With so much fuel, all parts of a document are refused as malformed only.  The functions that
compose them call one another, so the claim goes through all of them at once. -/
structure OnlyMalformedAt (fuel : Nat) : Prop where
  node : ∀ place, OnlyMalformed (node place fuel)
  content : ∀ place p number, OnlyMalformed (content place p number fuel)
  nodeBefore : ∀ ends place, OnlyMalformed (nodeBefore ends place fuel)
  nodeAfter : ∀ mark ends place, OnlyMalformed (nodeAfter mark ends place fuel)
  entries : ∀ ends, OnlyMalformed (entries ends fuel)
  blockPairs : OnlyMalformed (blockPairs fuel)
  flowItems : ∀ first, OnlyMalformed (flowItems first fuel)
  flowPairs : ∀ first, OnlyMalformed (flowPairs first fuel)

theorem onlyMalformedAt (fuel : Nat) : OnlyMalformedAt fuel := by
  induction fuel with
  | zero =>
      constructor
      case node => intro place; mvcgen [node]
      case content => intro place p number; mvcgen [content]
      case nodeBefore => intro ends place; mvcgen [nodeBefore]
      case nodeAfter => intro mark ends place; mvcgen [nodeAfter]
      case entries => intro ends; mvcgen [entries]
      case blockPairs => mvcgen [blockPairs]
      case flowItems => intro first; mvcgen [flowItems]
      case flowPairs => intro first; mvcgen [flowPairs]
  | succ fuel ih =>
      obtain ⟨atNode, atContent, atNodeBefore, atNodeAfter, atEntries, atBlockPairs, atFlowItems,
        atFlowPairs⟩ := ih
      constructor
      case node => intro place; mvcgen [node, atContent]
      case content =>
        intro place p number
        mvcgen [content, atFlowItems, atFlowPairs, atEntries, atBlockPairs]
      case nodeBefore => intro ends place; mvcgen [nodeBefore, atNode]
      case nodeAfter => intro mark ends place; mvcgen [nodeAfter, atNodeBefore]
      case entries => intro ends; mvcgen [entries, atNodeBefore, atEntries]
      case blockPairs => mvcgen [blockPairs, atNodeBefore, atNodeAfter, atBlockPairs]
      case flowItems =>
        intro first
        mvcgen [flowItems, atNode, atNodeBefore, atNodeAfter, atFlowItems]
      case flowPairs =>
        intro first
        mvcgen [flowPairs, atNode, atNodeBefore, atNodeAfter, atFlowPairs]

@[spec]
theorem node_onlyMalformed (place : Place) (fuel : Nat) : OnlyMalformed (node place fuel) :=
  (onlyMalformedAt fuel).node place

@[spec]
theorem documentContent_onlyMalformed (fuel : Nat) : OnlyMalformed (documentContent fuel) := by
  mvcgen [documentContent]

@[spec]
theorem firstDocument_onlyMalformed (fuel : Nat) : OnlyMalformed (firstDocument fuel) := by
  mvcgen [firstDocument]

end Composing

/-- The text of a scalar is none of the values that its tag promises. -/
def Tag.Misreads (tag : Tag) (text : String) : Prop :=
  match tag with
  | .bool => ∀ word ∈ boolWords, word.1 ≠ Text.lower text
  | .int => ∀ n, integerOf text ≠ .ok n
  | .float => ∀ x, floatOf text ≠ .ok x
  | .timestamp => ∀ a, timestampOf text ≠ .ok a
  | _ => False

/-- A node is read as a scalar, and its text is none of the values that its tag promises.  A mapping
has the text of its default entry, and for a moment not even that. -/
def Node.IsMisread : Node → Prop
  | .scalar tag text => tag.Misreads text
  | .mapping _ tag pairs =>
    ∃ text, Node.defaultText? pairs = some text ∧ (tag = .timestamp ∨ tag.Misreads text)
  | _ => False

/-! ### Readings -/

/-- A reading fails otherwise than as malformed only for a reason. -/
def Blames {α : Type} (reason : Prop) (r : Read α) : Prop :=
  ∀ depth label message, r = .error (depth, .failed label message) → reason

namespace Blames

variable {α β : Type} {reason : Prop}

theorem ok (a : α) : Blames reason (.ok a : Read α) := nofun

theorem malformed (depth : Nat) : Blames reason (.error (depth, .malformed) : Read α) := nofun

theorem bind {r : Read α} {f : α → Read β} (h : Blames reason r)
    (more : ∀ a, Blames reason (f a)) : Blames reason (r >>= f) := by
  intro depth label message failed
  cases r with
  | ok a => exact more a depth label message failed
  | error fault => exact h depth label message (by cases failed; rfl)

theorem map {r : Read α} (h : Blames reason r) (f : α → β) : Blames reason (f <$> r) := by
  intro depth label message failed
  cases r with
  | ok a => cases failed
  | error fault => exact h depth label message (by cases failed; rfl)

theorem both {x : Read α} {y : Read β} (hx : Blames reason x) (hy : Blames reason y) :
    Blames reason (both x y) := by
  intro depth label message failed
  cases x with
  | ok a =>
      cases y with
      | ok b => cases failed
      | error fault => exact hy depth label message (by cases failed; rfl)
  | error fault =>
      cases y with
      | ok b => exact hx depth label message (by cases failed; rfl)
      | error fault' =>
          obtain ⟨m, f⟩ := fault
          obtain ⟨n, g⟩ := fault'
          -- Of two faults the one nearer to the root is kept, and the first where both are as near.
          by_cases nearer : n < m
          · exact hy depth label message (by simpa [Yaml.both, nearer] using failed)
          · exact hx depth label message (by simpa [Yaml.both, nearer] using failed)

theorem each {f : α → Read β} : ∀ {xs : List α}, (∀ x ∈ xs, Blames reason (f x)) →
    Blames reason (each f xs)
  | [], _ => ok []
  | x :: xs, h => by
      obtain ⟨first, others⟩ := List.forall_mem_cons.mp h
      exact (first.both (each others)).map _

end Blames

/-! ### Nodes of a document -/

/-- A node stands in a document. -/
inductive Tree.Holds (t : Tree) : Node → Prop
  | root : Holds t t.root
  | named {number : Nat} {node : Node} (h : t.named.get? number = some node) : Holds t node
  | item {number : Nat} {tag : Tag} {items : List Node} {item : Node}
    (h : Holds t (.sequence number tag items)) (among : item ∈ items) : Holds t item
  | key {number : Nat} {tag : Tag} {pairs : List (Node × Node)} {pair : Node × Node}
    (h : Holds t (.mapping number tag pairs)) (among : pair ∈ pairs) : Holds t pair.1
  | entry {number : Nat} {tag : Tag} {pairs : List (Node × Node)} {pair : Node × Node}
    (h : Holds t (.mapping number tag pairs)) (among : pair ∈ pairs) : Holds t pair.2

/-- A node is read for a document: it stands in it, or is the text of a key that does. -/
def Tree.Reads (t : Tree) (n : Node) : Prop := t.Holds n ∨ ∃ text, n = .scalar .text text

/-- What surrounds a node stands in the document. -/
structure Surroundings.Within (t : Tree) (s : Surroundings) : Prop where
  named : ∀ number node, s.named.get? number = some node → t.Holds node
  holders : ∀ node, some node ∈ s.holders → t.Holds node

/-- Pairs are read for a document. -/
def Tree.ReadsPairs (t : Tree) (pairs : List (Node × Node)) : Prop :=
  ∀ pair ∈ pairs, t.Reads pair.1 ∧ t.Reads pair.2

/-- A collection that is read stands in the document. -/
theorem Tree.Reads.held {t : Tree} {node : Node} (read : t.Reads node)
    (numbered : node.number?.isSome = true) : t.Holds node := by
  rcases read with held | ⟨text, rfl⟩
  · exact held
  · cases numbered

theorem Tree.Reads.item {t : Tree} {number : Nat} {tag : Tag} {items : List Node}
    (read : t.Reads (.sequence number tag items)) : ∀ item ∈ items, t.Reads item :=
  fun _ among => .inl ((read.held rfl).item among)

theorem Tree.Reads.pairs {t : Tree} {number : Nat} {tag : Tag} {pairs : List (Node × Node)}
    (read : t.Reads (.mapping number tag pairs)) : t.ReadsPairs pairs :=
  fun _ among => ⟨.inl ((read.held rfl).key among), .inl ((read.held rfl).entry among)⟩

theorem Tree.ReadsPairs.append {t : Tree} {front back : List (Node × Node)}
    (hf : t.ReadsPairs front) (hb : t.ReadsPairs back) : t.ReadsPairs (front ++ back) :=
  List.forall_mem_append.mpr ⟨hf, hb⟩

theorem Tree.ReadsPairs.flatten {t : Tree} {parts : List (List (Node × Node))}
    (h : ∀ part ∈ parts, t.ReadsPairs part) : t.ReadsPairs parts.flatten :=
  List.forall_mem_flatten.mpr h

namespace Surroundings.Within

variable {t : Tree} {s : Surroundings}

theorem within (h : s.Within t) {node : Node} (held : t.Holds node) :
    (s.within (some node)).Within t := by
  refine ⟨h.named, fun other among => ?_⟩
  rcases List.mem_cons.mp among with same | among
  · cases same
    exact held
  · exact h.holders other among

theorem holds_of_holder? (h : s.Within t) {number level : Nat} {node : Node}
    (found : s.holder? number = some (level, node)) : t.Holds node := by
  simp only [Surroundings.holder?, Option.bind_eq_bind, Option.bind_eq_some_iff, Option.pure_def,
    Option.some.injEq, Prod.mk.injEq] at found
  obtain ⟨place, -, other, among, -, rfl⟩ := found
  exact h.holders other (List.mem_of_getElem? (Option.join_eq_some_iff.mp among))

/-- What a reference stands for is read for the document. -/
theorem reads_of_resolve? (h : s.Within t) {node other : Node} (read : t.Reads node)
    (resolved : s.resolve? node = some other) : t.Reads other := by
  unfold Surroundings.resolve? at resolved
  split at resolved
  · next number =>
    rcases Option.or_eq_some_iff.mp resolved with held | ⟨-, named⟩
    · obtain ⟨⟨level, node⟩, found, rfl⟩ := Option.map_eq_some_iff.mp held
      exact .inl (h.holds_of_holder? found)
    · exact .inl (h.named number other named)
  · cases resolved
    exact read

theorem reads_asKey {key : Node} (read : t.Reads key) : t.Reads key.asKey := by
  unfold Node.asKey
  split
  · exact .inr ⟨_, rfl⟩
  · exact read

theorem readsPairs_ownPairs {pairs : List (Node × Node)} (read : t.ReadsPairs pairs) :
    t.ReadsPairs (Node.ownPairs pairs) := by
  intro pair among
  obtain ⟨⟨key, value⟩, kept, rfl⟩ := List.mem_map.mp among
  obtain ⟨readKey, readValue⟩ := read _ (List.mem_of_mem_filter kept)
  exact ⟨reads_asKey readKey, readValue⟩

mutual

theorem readsPairs_withLent (h : s.Within t) : ∀ (fuel : Nat) (lending : List Nat)
    {pairs : List (Node × Node)}, t.ReadsPairs pairs → t.ReadsPairs (s.withLent lending pairs fuel)
  | 0, lending, pairs, read => by
      rw [Surroundings.withLent]
      exact readsPairs_ownPairs read
  | fuel + 1, lending, pairs, read => by
      have borrowing : t.ReadsPairs (pairs.filter (·.1.tag = .merge)) := fun pair among =>
        read pair (List.mem_of_mem_filter among)
      rw [Surroundings.withLent]
      split
      · next lent each =>
        refine (Tree.ReadsPairs.flatten fun part among => ?_).append (readsPairs_ownPairs read)
        obtain ⟨⟨key, lender⟩, merges, lends⟩ := (of_mapM_eq_some each).2 part among
        exact readsPairs_lentPairs? h fuel lending (borrowing _ merges).2 lends
      · exact borrowing.append (readsPairs_ownPairs read)

theorem readsPairs_lentPairs? (h : s.Within t) : ∀ (fuel : Nat) (lending : List Nat)
    {lender : Node} {pairs : List (Node × Node)}, t.Reads lender →
      s.lentPairs? lending lender fuel = some pairs → t.ReadsPairs pairs
  | 0, _, _, _, _, lent => by cases lent
  | fuel + 1, lending, lender, pairs, read, lent => by
      -- A mapping that is lending already gives its own pairs only, so that lending comes to an end.
      have ofMapping {node : Node} {lent : List (Node × Node)} (read : t.Reads node)
          (lends : (match s.resolve? node with
            | some (.mapping number _ pairs) =>
              if lending.contains number then some (Node.ownPairs pairs)
              else some (s.withLent (number :: lending) pairs fuel)
            | _ => none) = some lent) : t.ReadsPairs lent := by
        split at lends
        · next number _ pairs resolved =>
          have lendable := (h.reads_of_resolve? read resolved).pairs
          split at lends <;> cases lends
          · exact readsPairs_ownPairs lendable
          · exact readsPairs_withLent h fuel _ lendable
        · cases lends
      rw [Surroundings.lentPairs?] at lent
      split at lent
      · next items resolved =>
        simp only [Option.bind_eq_bind, Option.bind_eq_some_iff, Option.pure_def,
          Option.some.injEq] at lent
        obtain ⟨parts, each, rfl⟩ := lent
        refine Tree.ReadsPairs.flatten fun part among => ?_
        obtain ⟨item, here, lends⟩ := (of_mapM_eq_some each).2 part (List.mem_reverse.mp among)
        exact ofMapping ((h.reads_of_resolve? read resolved).item item here) lends
      · next node _ resolved => exact ofMapping (h.reads_of_resolve? read resolved) lent
      · cases lent

end

end Surroundings.Within

/-! ### Values -/

/-- The reading of a text fails otherwise than as malformed. -/
def Fails (text : List Char) : Prop :=
  ∃ label message, read text = .error (.failed label message)

end Verdict.Yaml
