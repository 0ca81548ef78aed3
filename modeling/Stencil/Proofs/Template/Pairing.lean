import Mathlib.Data.List.Find
import Stencil.Proofs.Template.Balance

/-!
# Pairing of block tags

One pass over the tags of a text pairs each closing tag with the most recent
opening tag that waits for one; a closing tag for which none waits is in no
pair.  The outermost pairs are those that no other pair encloses, and a pair is
divided at the first separator between its tags that is in no pair inside it.
What stands between the tags of a pair and what stands behind them is paired
without regard to the rest.
-/

namespace Stencil

theorem Text.extract_eq {text part : Text} {start stop : Nat} (front rest : Text)
    (whole : text = front ++ part ++ rest) (first : front.length = start)
    (last : start + part.length = stop) : text.extract start stop = part := by
  subst whole first last
  simp

/-- Whether no token among pieces is without characters. -/
def Solid (pieces : List (Piece Tag.Mark)) : Prop :=
  ∀ raw mark, .token raw mark ∈ pieces → raw ≠ []

theorem Solid.tail {piece : Piece Tag.Mark} {pieces : List (Piece Tag.Mark)}
    (solid : Solid (piece :: pieces)) : Solid pieces :=
  fun raw mark member => solid raw mark (List.mem_cons_of_mem piece member)

/-- A block tag at its place in a text. -/
structure PlacedTag where
  start : Nat
  raw : Text
  mark : Tag.Mark
  deriving DecidableEq, Repr

namespace PlacedTag

def stop (tag : PlacedTag) : Nat := tag.start + tag.raw.length

def header (tag : PlacedTag) : Text :=
  match tag.mark with
  | .opens header => header
  | .closes | .separates => []

/-- The tags among pieces of which the first one stands at a position. -/
def among (start : Nat) : List (Piece Tag.Mark) → List PlacedTag
  | [] => []
  | .plain _ :: pieces => among (start + 1) pieces
  | .token raw mark :: pieces => ⟨start, raw, mark⟩ :: among (start + raw.length) pieces

theorem start_le_of_mem {start : Nat} {pieces : List (Piece Tag.Mark)} {tag : PlacedTag}
    (member : tag ∈ among start pieces) : start ≤ tag.start := by
  induction pieces generalizing start with
  | nil => exact absurd member List.not_mem_nil
  | cons piece pieces ih =>
      cases piece with
      | plain char => exact Nat.le_trans (Nat.le_succ start) (ih member)
      | token raw mark =>
          rcases List.mem_cons.mp member with rfl | later
          · exact Nat.le_refl start
          · exact Nat.le_trans (Nat.le_add_right start raw.length) (ih later)

theorem pairwise_among (start : Nat) (pieces : List (Piece Tag.Mark)) :
    (among start pieces).Pairwise fun first later => first.stop ≤ later.start := by
  induction pieces generalizing start with
  | nil => exact .nil
  | cons piece pieces ih =>
      cases piece with
      | plain char => exact ih (start + 1)
      | token raw mark => exact .cons (fun later member => start_le_of_mem member) (ih _)

theorem start_lt_stop_of_mem {pieces : List (Piece Tag.Mark)} (solid : Solid pieces) {start : Nat}
    {tag : PlacedTag} (member : tag ∈ among start pieces) : tag.start < tag.stop := by
  induction pieces generalizing start with
  | nil => exact absurd member List.not_mem_nil
  | cons piece pieces ih =>
      cases piece with
      | plain char => exact ih solid.tail member
      | token raw mark =>
          rcases List.mem_cons.mp member with rfl | later
          · exact Nat.lt_add_of_pos_right
              (List.length_pos_iff.mpr (solid raw mark List.mem_cons_self))
          · exact ih solid.tail later

theorem extract_of_mem {pieces : List (Piece Tag.Mark)} {text : Text} (front : Text)
    (whole : text = front ++ pieces.flatMap Piece.source) {tag : PlacedTag}
    (member : tag ∈ among front.length pieces) : text.extract tag.start tag.stop = tag.raw := by
  induction pieces generalizing front with
  | nil => exact absurd member List.not_mem_nil
  | cons piece pieces ih =>
      have later : text = (front ++ piece.source) ++ pieces.flatMap Piece.source := by
        rw [whole, List.flatMap_cons, List.append_assoc]
      cases piece with
      | plain char =>
          apply ih _ later
          rwa [List.length_append]
      | token raw mark =>
          rcases List.mem_cons.mp member with rfl | behind
          · exact Text.extract_eq front _ later rfl rfl
          · apply ih _ later
            rwa [List.length_append]

theorem exists_piece_of_mem {start : Nat} {pieces : List (Piece Tag.Mark)} {tag : PlacedTag}
    (member : tag ∈ among start pieces) : .token tag.raw tag.mark ∈ pieces := by
  induction pieces generalizing start with
  | nil => exact absurd member List.not_mem_nil
  | cons piece pieces ih =>
      cases piece with
      | plain char => exact List.mem_cons_of_mem _ (ih member)
      | token raw mark =>
          rcases List.mem_cons.mp member with rfl | behind
          · exact List.mem_cons_self
          · exact List.mem_cons_of_mem _ (ih behind)

end PlacedTag

/-- An opening tag and the closing tag it is paired with. -/
structure TagPair where
  opener : PlacedTag
  closer : PlacedTag
  deriving DecidableEq, Repr

namespace TagPair

/-- Whether a tag stands between the tags of a pair. -/
def holds (pair : TagPair) (tag : PlacedTag) : Bool :=
  pair.opener.start < tag.start && tag.start < pair.closer.start

/-- Whether a pair stands between the tags of another one. -/
def encloses (outer inner : TagPair) : Bool :=
  outer.opener.start < inner.opener.start && inner.closer.start < outer.closer.start

variable {pair other : TagPair} {tag : PlacedTag}

theorem holds_iff :
    pair.holds tag = true ↔ pair.opener.start < tag.start ∧ tag.start < pair.closer.start := by
  simp [holds]

theorem encloses_iff : pair.encloses other = true ↔
    pair.opener.start < other.opener.start ∧ other.closer.start < pair.closer.start := by
  simp [encloses]

theorem holds_of_start_le (before : tag.start ≤ pair.opener.start) : pair.holds tag = false := by
  rw [Bool.eq_false_iff, Ne, holds_iff]
  omega

theorem holds_of_le_start (behind : pair.closer.start ≤ tag.start) : pair.holds tag = false := by
  rw [Bool.eq_false_iff, Ne, holds_iff]
  omega

theorem encloses_of_opener_le (before : other.opener.start ≤ pair.opener.start) :
    pair.encloses other = false := by
  rw [Bool.eq_false_iff, Ne, encloses_iff]
  omega

theorem encloses_of_le_closer (behind : pair.closer.start ≤ other.closer.start) :
    pair.encloses other = false := by
  rw [Bool.eq_false_iff, Ne, encloses_iff]
  omega

end TagPair

/-- A state of the pairing: the opening tags that wait for a closing tag, the
most recent one first, and the pairs found so far. -/
structure Pairing where
  waiting : List PlacedTag
  pairs : List TagPair
  deriving DecidableEq, Repr

namespace Pairing

/-- A closing tag is paired with the most recent tag that waits; if none waits,
it is ignored. -/
def step (state : Pairing) (tag : PlacedTag) : Pairing :=
  match tag.mark, state.waiting with
  | .opens _, waiting => ⟨tag :: waiting, state.pairs⟩
  | .closes, opener :: waiting => ⟨waiting, state.pairs ++ [⟨opener, tag⟩]⟩
  | .closes, [] => state
  | .separates, _ => state

/-- The pairs that one pass over tags finds. -/
def pairsOf (tags : List PlacedTag) : List TagPair :=
  (tags.foldl step ⟨[], []⟩).pairs

/-- The pairs that no other pair encloses. -/
def outermost (pairs : List TagPair) : List TagPair :=
  pairs.filter fun pair => pairs.all fun other => !other.encloses pair

/-- The first separator that lies in a pair but in no pair nested in it. -/
def divider? (tags : List PlacedTag) (pairs : List TagPair) (pair : TagPair) : Option PlacedTag :=
  tags.find? fun tag => tag.mark = .separates && pair.holds tag
    && pairs.all fun other => !(pair.encloses other && other.holds tag)

variable {waiting : List PlacedTag} {pairs : List TagPair} {tag : PlacedTag}

theorem step_opens {header : Text} (opens : tag.mark = .opens header) :
    step ⟨waiting, pairs⟩ tag = ⟨tag :: waiting, pairs⟩ := by
  rw [step, opens]

theorem step_closes {opener : PlacedTag} (closes : tag.mark = .closes) :
    step ⟨opener :: waiting, pairs⟩ tag = ⟨waiting, pairs ++ [⟨opener, tag⟩]⟩ := by
  rw [step, closes]

theorem step_separates (separates : tag.mark = .separates) :
    step ⟨waiting, pairs⟩ tag = ⟨waiting, pairs⟩ := by
  rw [step, separates]

/-- What is found behind some pairs does not depend on them. -/
theorem foldl_step (tags : List PlacedTag) (state : Pairing) :
    tags.foldl step state =
      ⟨(tags.foldl step ⟨state.waiting, []⟩).waiting,
        state.pairs ++ (tags.foldl step ⟨state.waiting, []⟩).pairs⟩ := by
  induction tags generalizing state with
  | nil => simp
  | cons tag tags ih =>
      rw [List.foldl_cons, List.foldl_cons, ih, ih (step ⟨state.waiting, []⟩ tag)]
      obtain ⟨waiting, pairs⟩ := state
      cases marked : tag.mark with
      | opens header => simp [step, marked]
      | separates => simp [step, marked]
      | closes => cases waiting <;> simp [step, marked]

/-- The tags of a pair are among those that were waiting and those passed. -/
theorem mem_of_mem_pairs {tags : List PlacedTag} {pair : TagPair}
    (member : pair ∈ (tags.foldl step ⟨waiting, []⟩).pairs) :
    (pair.opener ∈ waiting ∨ pair.opener ∈ tags) ∧ pair.closer ∈ tags := by
  induction tags generalizing waiting with
  | nil => exact absurd member List.not_mem_nil
  | cons tag tags ih =>
      rw [List.foldl_cons, foldl_step] at member
      cases marked : tag.mark with
      | opens header =>
          rw [step_opens marked, List.nil_append] at member
          obtain ⟨opener, closer⟩ := ih member
          refine ⟨?_, List.mem_cons_of_mem tag closer⟩
          rcases opener with waits | passed
          · rcases List.mem_cons.mp waits with rfl | before
            · exact .inr List.mem_cons_self
            · exact .inl before
          · exact .inr (List.mem_cons_of_mem tag passed)
      | separates =>
          rw [step_separates marked, List.nil_append] at member
          obtain ⟨opener, closer⟩ := ih member
          exact ⟨opener.imp_right (List.mem_cons_of_mem tag), List.mem_cons_of_mem tag closer⟩
      | closes =>
          cases waiting with
          | nil =>
              have ignored : step ⟨[], []⟩ tag = ⟨[], []⟩ := by rw [step, marked]
              rw [ignored, List.nil_append] at member
              obtain ⟨opener, closer⟩ := ih member
              exact ⟨opener.imp_right (List.mem_cons_of_mem tag), List.mem_cons_of_mem tag closer⟩
          | cons first waiting =>
              rw [step_closes marked, List.nil_append] at member
              rcases List.mem_append.mp member with here | later
              · rw [List.mem_singleton.mp here]
                exact ⟨.inl List.mem_cons_self, List.mem_cons_self⟩
              · obtain ⟨opener, closer⟩ := ih later
                refine ⟨?_, List.mem_cons_of_mem tag closer⟩
                rcases opener with waits | passed
                · exact .inl (List.mem_cons_of_mem first waits)
                · exact .inr (List.mem_cons_of_mem tag passed)

/-- A pair that encloses all found before it, and that stands before all found
after it, is the first of the outermost ones. -/
theorem outermost_append_cons {inner later : List TagPair} {pair : TagPair}
    (around : ∀ other ∈ inner, pair.encloses other = true)
    (free : ∀ other ∈ inner ++ pair :: later, other.encloses pair = false)
    (apart : ∀ next ∈ later, ∀ other ∈ inner ++ [pair], other.encloses next = false) :
    outermost (inner ++ pair :: later) = pair :: outermost later := by
  have hidden : (inner.filter fun other => (inner ++ pair :: later).all fun outer =>
      !outer.encloses other) = [] := by
    rw [List.filter_eq_nil_iff]
    intro other member all
    have clear := List.all_eq_true.mp all pair (by simp)
    rw [around other member] at clear
    exact absurd clear (by decide)
  have kept : ((inner ++ pair :: later).all fun outer => !outer.encloses pair) = true := by
    rw [List.all_eq_true]
    intro other member
    rw [free other member]
    rfl
  rw [outermost, List.filter_append, hidden, List.nil_append, List.filter_cons, if_pos kept]
  congr 1
  apply List.filter_congr
  intro next member
  have none : ((inner ++ [pair]).all fun outer => !outer.encloses next) = true := by
    rw [List.all_eq_true]
    intro other among
    rw [apart next member other among]
    rfl
  rw [← List.singleton_append, ← List.append_assoc, List.all_append, none, Bool.true_and]

/-- Tags that a pair does not hold and pairs that it does not enclose play no
part in its division. -/
theorem divider?_append {front : List PlacedTag} {others : List TagPair} {pair : TagPair}
    (tags : List PlacedTag) (pairs : List TagPair) (outside : ∀ tag ∈ front, pair.holds tag = false)
    (foreign : ∀ other ∈ others, pair.encloses other = false) :
    divider? (front ++ tags) (others ++ pairs) pair = divider? tags pairs pair := by
  have none : front.find? (fun tag => tag.mark = .separates && pair.holds tag
      && (others ++ pairs).all fun other => !(pair.encloses other && other.holds tag)) = none := by
    rw [List.find?_eq_none]
    intro tag member
    rw [outside tag member]
    simp
  rw [divider?, List.find?_append, none, Option.none_or, divider?]
  congr 1
  funext tag
  have all : (others.all fun other => !(pair.encloses other && other.holds tag)) = true := by
    rw [List.all_eq_true]
    intro other member
    rw [foreign other member]
    rfl
  rw [List.all_append, all, Bool.true_and]

/-- Whether only opening tags wait and only closing tags end pairs. -/
def Marked (state : Pairing) : Prop :=
  (∀ tag ∈ state.waiting, tag.mark = .opens tag.header) ∧
    ∀ pair ∈ state.pairs, pair.opener.mark = .opens pair.opener.header ∧ pair.closer.mark = .closes

theorem Marked.step {state : Pairing} (marked : state.Marked) (tag : PlacedTag) :
    (state.step tag).Marked := by
  obtain ⟨waiting, pairs⟩ := state
  obtain ⟨opening, paired⟩ := marked
  cases mark : tag.mark with
  | opens header =>
      rw [step_opens mark]
      exact ⟨List.forall_mem_cons.mpr ⟨by rw [PlacedTag.header, mark], opening⟩, paired⟩
  | separates =>
      rw [step_separates mark]
      exact ⟨opening, paired⟩
  | closes =>
      cases waiting with
      | nil =>
          have ignored : Pairing.step ⟨[], pairs⟩ tag = ⟨[], pairs⟩ := by rw [Pairing.step, mark]
          rw [ignored]
          exact ⟨opening, paired⟩
      | cons opener waiting =>
          obtain ⟨first, others⟩ := List.forall_mem_cons.mp opening
          rw [step_closes mark]
          exact ⟨others, List.forall_mem_append.mpr ⟨paired, by simpa using ⟨first, mark⟩⟩⟩

theorem Marked.foldl {state : Pairing} (marked : state.Marked) (tags : List PlacedTag) :
    (tags.foldl Pairing.step state).Marked := by
  induction tags generalizing state with
  | nil => exact marked
  | cons tag tags ih => exact ih (marked.step tag)

theorem marks_of_mem_pairsOf {tags : List PlacedTag} {pair : TagPair}
    (member : pair ∈ pairsOf tags) :
    pair.opener.mark = .opens pair.opener.header ∧ pair.closer.mark = .closes :=
  have started : Marked ⟨[], []⟩ := ⟨nofun, nofun⟩
  (started.foldl tags).2 pair member

end Pairing

namespace TagPair

open Pairing

/-- Whether a pair stands around some tags and before others. -/
structure Surrounds (pair : TagPair) (passed later : List PlacedTag) : Prop where
  ordered : pair.opener.start < pair.closer.start
  holds : ∀ tag ∈ passed, pair.holds tag = true
  before : ∀ tag ∈ later, pair.closer.start < tag.start

namespace Surrounds

variable {pair : TagPair} {passed later : List PlacedTag} (around : pair.Surrounds passed later)

include around

theorem holds_pairs {inner : TagPair} (member : inner ∈ pairsOf passed) :
    pair.holds inner.opener = true ∧ pair.holds inner.closer = true := by
  obtain ⟨opener, closer⟩ := mem_of_mem_pairs member
  exact ⟨around.holds _ (opener.resolve_left List.not_mem_nil), around.holds _ closer⟩

theorem encloses_pairs {inner : TagPair} (member : inner ∈ pairsOf passed) :
    pair.encloses inner = true := by
  obtain ⟨opener, closer⟩ := around.holds_pairs member
  exact encloses_iff.mpr ⟨(holds_iff.mp opener).1, (holds_iff.mp closer).2⟩

theorem before_pairs {next : TagPair} (member : next ∈ pairsOf later) :
    pair.closer.start < next.opener.start ∧ pair.closer.start < next.closer.start := by
  obtain ⟨opener, closer⟩ := mem_of_mem_pairs member
  exact ⟨around.before _ (opener.resolve_left List.not_mem_nil), around.before _ closer⟩

theorem outermost_eq :
    outermost (pairsOf passed ++ pair :: pairsOf later) = pair :: outermost (pairsOf later) := by
  apply outermost_append_cons fun inner member => around.encloses_pairs member
  · intro other member
    apply encloses_of_opener_le
    rcases List.mem_append.mp member with inside | rest
    · exact Nat.le_of_lt (holds_iff.mp (around.holds_pairs inside).1).1
    · rcases List.mem_cons.mp rest with rfl | rest
      · exact Nat.le_refl _
      · exact Nat.le_of_lt (Nat.lt_trans around.ordered (around.before_pairs rest).1)
  · intro next member other among
    apply encloses_of_le_closer
    have last := (around.before_pairs member).2
    rcases List.mem_append.mp among with inside | here
    · have within := (holds_iff.mp (around.holds_pairs inside).2).2
      exact Nat.le_of_lt (Nat.lt_trans within last)
    · rw [List.mem_singleton.mp here]
      exact Nat.le_of_lt last

/-- A pair is divided by what stands between its tags. -/
theorem divider?_self {header : Text} (opens : pair.opener.mark = .opens header)
    (closes : pair.closer.mark = .closes) :
    divider? (pair.opener :: (passed ++ pair.closer :: later))
        (pairsOf passed ++ pair :: pairsOf later) pair =
      passed.find? fun tag =>
        tag.mark = .separates && (pairsOf passed).all fun inner => !inner.holds tag := by
  have outside : later.find? (fun tag => tag.mark = .separates && pair.holds tag
      && (pairsOf passed ++ pair :: pairsOf later).all fun other =>
        !(pair.encloses other && other.holds tag)) = none := by
    rw [List.find?_eq_none]
    intro tag member
    rw [holds_of_le_start (Nat.le_of_lt (around.before tag member))]
    simp
  have others : ∀ tag, ((pair :: pairsOf later).all fun other =>
      !(pair.encloses other && other.holds tag)) = true := by
    intro tag
    rw [List.all_eq_true]
    intro other member
    have apart : pair.encloses other = false := by
      apply encloses_of_le_closer
      rcases List.mem_cons.mp member with rfl | rest
      · exact Nat.le_refl _
      · exact Nat.le_of_lt (around.before_pairs rest).2
    rw [apart]
    rfl
  have inners : ∀ tag, ((pairsOf passed).all fun inner =>
      !(pair.encloses inner && inner.holds tag)) =
        (pairsOf passed).all fun inner => !inner.holds tag := by
    intro tag
    rw [Bool.eq_iff_iff, List.all_eq_true, List.all_eq_true]
    refine forall₂_congr fun inner member => ?_
    rw [around.encloses_pairs member, Bool.true_and]
  rw [divider?, List.find?_cons_of_neg (by simp [opens]), List.find?_append,
    List.find?_cons_of_neg (by simp [closes]), outside, Option.or_none]
  apply List.find?_congr
  intro tag member
  rw [around.holds tag member, List.all_append, others, inners, Bool.and_true, Bool.and_true]

/-- What stands up to the end of a pair does not divide the pairs behind it. -/
theorem divider?_later {next : TagPair} (member : next ∈ pairsOf later) :
    divider? (pair.opener :: (passed ++ pair.closer :: later))
        (pairsOf passed ++ pair :: pairsOf later) next =
      divider? later (pairsOf later) next := by
  have behind := (around.before_pairs member).1
  have front : ∀ tag ∈ pair.opener :: (passed ++ [pair.closer]), next.holds tag = false := by
    intro tag among
    apply holds_of_start_le
    rcases List.mem_cons.mp among with rfl | rest
    · exact Nat.le_of_lt (Nat.lt_trans around.ordered behind)
    · rcases List.mem_append.mp rest with inside | last
      · have within := (holds_iff.mp (around.holds tag inside)).2
        exact Nat.le_of_lt (Nat.lt_trans within behind)
      · rw [List.mem_singleton.mp last]
        exact Nat.le_of_lt behind
  have foreign : ∀ other ∈ pairsOf passed ++ [pair], next.encloses other = false := by
    intro other among
    apply encloses_of_opener_le
    rcases List.mem_append.mp among with inside | last
    · have within := (holds_iff.mp (around.holds_pairs inside).1).2
      exact Nat.le_of_lt (Nat.lt_trans within behind)
    · rw [List.mem_singleton.mp last]
      exact Nat.le_of_lt (Nat.lt_trans around.ordered behind)
  have apart := divider?_append later (pairsOf later) front foreign
  simpa using apart

end Surrounds

end TagPair

end Stencil
