import Mathlib.Data.List.Perm.Subperm
import Stencil.Proofs.Template.ClosedTags
import Stencil.Proofs.Template.PairedBlocks
import Stencil.Template.Check

/-!
# Counted and matched tags

The static check counts the tags of blocks with matchers of its own, one for
each kind of tag.  What they find lies inside the tags that blocks are made of:
a closing tag is counted once, and so is an opening tag unless it is overlooked
because its header goes over several lines; an opening tag is counted as a
closing tag, too, if it ends with one.  Hence an imbalance is reported exactly
if the numbers of opening and closing tags differ by something else than that.
-/

namespace Stencil

namespace Matcher

/-- What begins no block tag begins no token that is counted, and a counted
token lies in one block tag: as many are counted as there are block tags with
one inside. -/
theorem length_tokens_eq_countP {marks : Matcher Tag.Mark} {check : Matcher α}
    (fewer : ∀ text, marks.read text = none → check.read text = none)
    (closed : marks.EndsClosed) (reads : check.ReadsTags) (start : Nat) (text : Text) :
    (check.tokens text).length =
      (PlacedTag.among start (marks.pieces text)).countP fun tag => check.finds tag.raw := by
  fun_induction pieces marks text generalizing start with
  | case1 => simp [tokens, pieces, PlacedTag.among]
  | case2 char text raw mark rest read ih =>
      have once := closed _ _ _ _ read
      have one : (check.tokens raw).length ≤ 1 :=
        length_tokens_le_one reads.endsClosed fun front rest whole => (whole ▸ once).eq_nil
      have split : check.tokens (char :: text) = check.tokens raw ++ check.tokens rest := by
        rw [(marks.sound read).2, tokens, pieces_closed_append reads once.closing_suffix,
          List.filterMap_append, tokens, tokens]
      rw [split, List.length_append, ih (start + raw.length), PlacedTag.among, List.countP_cons,
        Nat.add_comm]
      congr 1
      cases found : check.tokens raw with
      | nil => simp [finds, found]
      | cons token more =>
          rw [found] at one
          simp [finds, found]
          simpa using one
  | case3 char text read ih =>
      rw [tokens, pieces_of_read_none (fewer _ read), List.filterMap_cons_none rfl, ← tokens,
        ih (start + 1), PlacedTag.among]

end Matcher

namespace PlacedTag

def isOpening (tag : PlacedTag) : Bool :=
  match tag.mark with
  | .opens _ => true
  | .closes | .separates => false

def isClosing (tag : PlacedTag) : Bool :=
  tag.mark = .closes

theorem isOpening_iff {tag : PlacedTag} :
    tag.isOpening = true ↔ tag.mark = .opens tag.header := by
  unfold isOpening PlacedTag.header
  cases tag.mark <;> simp

theorem isClosing_iff {tag : PlacedTag} : tag.isClosing = true ↔ tag.mark = .closes := by
  rw [isClosing, decide_eq_true_iff]

theorem nodup_among {pieces : List (Piece Tag.Mark)} (solid : Solid pieces) (start : Nat) :
    (among start pieces).Nodup := by
  apply (pairwise_among start pieces).imp_of_mem
  rintro tag _ member _ apart rfl
  exact absurd (start_lt_stop_of_mem solid member) (Nat.not_lt.mpr apart)

end PlacedTag

namespace Pairing

/-- An opening tag waits or is in a pair, and a pair takes a closing tag. -/
theorem length_step (state : Pairing) (tag : PlacedTag) :
    (state.step tag).waiting.length + (state.step tag).pairs.length =
        state.waiting.length + state.pairs.length + [tag].countP PlacedTag.isOpening ∧
      (state.step tag).pairs.length ≤
        state.pairs.length + [tag].countP PlacedTag.isClosing := by
  obtain ⟨waiting, pairs⟩ := state
  cases marked : tag.mark with
  | opens header =>
      rw [step_opens marked]
      simp [PlacedTag.isOpening, PlacedTag.isClosing, marked]
      omega
  | separates =>
      rw [step_separates marked]
      simp [PlacedTag.isOpening, PlacedTag.isClosing, marked]
  | closes =>
      cases waiting with
      | nil =>
          have ignored : step ⟨[], pairs⟩ tag = ⟨[], pairs⟩ := by rw [step, marked]
          rw [ignored]
          simp [PlacedTag.isOpening, PlacedTag.isClosing, marked]
      | cons opener waiting =>
          rw [step_closes marked]
          simp [PlacedTag.isOpening, PlacedTag.isClosing, marked]
          omega

theorem length_foldl_step (tags : List PlacedTag) (state : Pairing) :
    (tags.foldl step state).waiting.length + (tags.foldl step state).pairs.length =
        state.waiting.length + state.pairs.length + tags.countP PlacedTag.isOpening ∧
      (tags.foldl step state).pairs.length ≤
        state.pairs.length + tags.countP PlacedTag.isClosing := by
  induction tags generalizing state with
  | nil => simp
  | cons tag tags ih =>
      obtain ⟨opened, closed⟩ := length_step state tag
      obtain ⟨openedLater, closedLater⟩ := ih (state.step tag)
      rw [List.foldl_cons, ← List.singleton_append, List.countP_append, List.countP_append]
      omega

/-- There are no more pairs than opening tags, nor than closing tags. -/
theorem length_pairsOf_le (tags : List PlacedTag) :
    (pairsOf tags).length ≤ (tags.filter PlacedTag.isOpening).length ∧
      (pairsOf tags).length ≤ (tags.filter PlacedTag.isClosing).length := by
  obtain ⟨opened, closed⟩ := length_foldl_step tags ⟨[], []⟩
  rw [← List.countP_eq_length_filter, ← List.countP_eq_length_filter, pairsOf]
  simp only [List.length_nil, Nat.zero_add] at opened closed
  exact ⟨by omega, closed⟩

theorem length_le_of_paired {tags : List PlacedTag} {pairs : List TagPair} (nodup : tags.Nodup)
    (place : TagPair → PlacedTag) (paired : ∀ tag ∈ tags, ∃ pair ∈ pairs, tag = place pair) :
    tags.length ≤ pairs.length := by
  rw [← List.length_map place]
  apply (List.subperm_of_subset nodup _).length_le
  intro tag member
  obtain ⟨pair, found, rfl⟩ := paired tag member
  exact List.mem_map_of_mem found

end Pairing

namespace BlockKind

open PlacedTag

/-- The opening tags of a kind that are counted. -/
def checkedOpener : BlockKind → Matcher Text
  | conditional => Check.ifTag
  | loop => Check.foreachTag

/-- The closing tags of a kind that are counted. -/
def checkedCloser : BlockKind → Matcher Unit
  | conditional => Check.endifTag
  | loop => Check.endforeachTag

/-- The problem of a kind of blocks that do not balance. -/
def problem : BlockKind → Nat → Nat → Check.Problem
  | conditional => .unbalancedIf
  | loop => .unbalancedForeach

/-- Whether an imbalance of a kind of blocks is reported. -/
def IsReported (kind : BlockKind) (template : Text) : Prop :=
  ∃ opened closed, kind.problem opened closed ∈ Check.problems template

/-- The tags of the blocks of a kind in a text. -/
def tags (kind : BlockKind) (text : Text) : List PlacedTag :=
  among 0 (kind.marks.pieces text)

def openers (kind : BlockKind) (text : Text) : List PlacedTag :=
  (kind.tags text).filter isOpening

def closers (kind : BlockKind) (text : Text) : List PlacedTag :=
  (kind.tags text).filter isClosing

/-- Whether every opening and every closing tag is in a pair. -/
def PairsAll (kind : BlockKind) (text : Text) : Prop :=
  ∀ tag ∈ kind.openers text ++ kind.closers text,
    ∃ pair ∈ Pairing.pairsOf (kind.tags text), tag = pair.opener ∨ tag = pair.closer

/-- How many opening tags have no counted one in them. -/
def overlooked (kind : BlockKind) (text : Text) : Nat :=
  (kind.openers text).countP fun tag => !kind.checkedOpener.finds tag.raw

/-- How many opening tags end with a closing tag. -/
def doubled (kind : BlockKind) (text : Text) : Nat :=
  (kind.openers text).countP fun tag => kind.closingTag <:+ tag.raw

/-- By how much the counts are off. -/
def miscounted (kind : BlockKind) (text : Text) : Nat :=
  kind.overlooked text + kind.doubled text

theorem mem_problems_iff {kind : BlockKind} {template : Text} {opened closed : Nat} :
    kind.problem opened closed ∈ Check.problems template ↔
      opened = (kind.checkedOpener.tokens template).length ∧
        closed = (kind.checkedCloser.tokens template).length ∧ opened ≠ closed := by
  cases kind with
  | conditional | loop =>
      simp only [problem, checkedOpener, checkedCloser, Check.problems, List.mem_append,
        List.mem_ite_nil_left, List.mem_singleton, Check.Problem.unbalancedIf.injEq,
        Check.Problem.unbalancedForeach.injEq, reduceCtorEq, Option.mem_toList,
        Option.map_eq_some_iff, and_false, exists_false, or_false, false_or]
      constructor
      · rintro ⟨differ, rfl, rfl⟩
        exact ⟨rfl, rfl, differ⟩
      · rintro ⟨rfl, rfl, differ⟩
        exact ⟨differ, rfl, rfl⟩

theorem marks_endsClosed (kind : BlockKind) : kind.marks.EndsClosed := by
  cases kind with
  | conditional =>
      exact Matcher.endsClosed_orElse
        (Tag.endsClosed_ofHeader (Tag.endsClosed_headed _ _ _ (by decide)))
        (Matcher.endsClosed_orElse (Matcher.endsClosed_literal _ _ ⟨_, rfl⟩)
          (Matcher.endsClosed_literal _ _ ⟨_, rfl⟩))
  | loop =>
      exact Matcher.endsClosed_orElse
        (Tag.endsClosed_ofHeader (Tag.endsClosed_headed _ _ _ (by decide)))
        (Matcher.endsClosed_literal _ _ ⟨_, rfl⟩)

theorem checkedOpener_readsTags (kind : BlockKind) : kind.checkedOpener.ReadsTags := by
  cases kind with
  | conditional => exact Tag.readsTags_headed Tag.ifOpening_ne_nil true Tag.isOneLine (by decide)
  | loop =>
      exact Tag.readsTags_headed Tag.foreachOpening_ne_nil false Tag.isOneLine (by decide)

theorem checkedCloser_readsTags (kind : BlockKind) : kind.checkedCloser.ReadsTags := by
  cases kind with
  | conditional => exact Matcher.readsTags_literal Tag.endifTag_ne_nil () ⟨_, rfl⟩
  | loop => exact Matcher.readsTags_literal Tag.endforeachTag_ne_nil () ⟨_, rfl⟩

def opener : BlockKind → Matcher Text
  | conditional => Tag.ifTag
  | loop => Tag.foreachTag

variable {kind : BlockKind}

theorem checkedOpener_read_iff {text raw header rest : Text} :
    kind.checkedOpener.read text = some (raw, header, rest) ↔
      kind.opener.read text = some (raw, header, rest) ∧ Tag.isOneLine header = true := by
  cases kind with
  | conditional => exact Tag.read_headed_iff Tag.ifOpening_ne_nil true Tag.isOneLine
  | loop => exact Tag.read_headed_iff Tag.foreachOpening_ne_nil false Tag.isOneLine

theorem opener_read_of_marks {text raw header rest : Text}
    (read : kind.marks.read text = some (raw, .opens header, rest)) :
    kind.opener.read text = some (raw, header, rest) := by
  have ofHeader : ∀ matcher : Matcher Text,
      (Tag.Mark.ofHeader matcher).read text = some (raw, .opens header, rest) →
        matcher.read text = some (raw, header, rest) := by
    intro matcher found
    obtain ⟨⟨_, _, _⟩, found, same⟩ := Option.map_eq_some_iff.mp found
    cases same
    exact found
  cases kind with
  | conditional =>
      rcases Option.or_eq_some_iff.mp read with opens | ⟨_, others⟩
      · exact ofHeader _ opens
      · rcases Option.or_eq_some_iff.mp others with closes | ⟨_, separates⟩
        · exact absurd (read_literal closes).2 (by simp)
        · exact absurd (read_literal separates).2 (by simp)
  | loop =>
      rcases Option.or_eq_some_iff.mp read with opens | ⟨_, closes⟩
      · exact ofHeader _ opens
      · exact absurd (read_literal closes).2 (by simp)

theorem opener_read_of_marks_eq_none {text : Text} (silent : kind.marks.read text = none) :
    kind.opener.read text = none := by
  cases kind with
  | conditional | loop => exact Option.map_eq_none_iff.mp (Option.or_eq_none_iff.mp silent).1

theorem checkedOpener_read_of_marks_eq_none {text : Text} (silent : kind.marks.read text = none) :
    kind.checkedOpener.read text = none := by
  cases read : kind.checkedOpener.read text with
  | none => rfl
  | some found =>
      have opens := (checkedOpener_read_iff.mp read).1
      rw [opener_read_of_marks_eq_none silent] at opens
      exact absurd opens (by simp)

theorem isSome_checkedCloser_read_iff {text : Text} :
    (kind.checkedCloser.read text).isSome = true ↔ kind.closingTag <+: text := by
  have literal : ∀ (word : Text) (nonempty : word ≠ []),
      ((Matcher.literal word nonempty ()).read text).isSome = true ↔ word <+: text := by
    intro word nonempty
    rw [Matcher.literal, Option.isSome_map, Option.isSome_iff_exists]
    simp only [Text.after?_eq_some_iff]
    exact exists_congr fun rest => eq_comm
  cases kind with
  | conditional => exact literal Tag.endifTag Tag.endifTag_ne_nil
  | loop => exact literal Tag.endforeachTag Tag.endforeachTag_ne_nil

theorem checkedCloser_read_of_marks_eq_none {text : Text} (silent : kind.marks.read text = none) :
    kind.checkedCloser.read text = none := by
  cases kind with
  | conditional =>
      have closes := (Option.or_eq_none_iff.mp (Option.or_eq_none_iff.mp silent).2).1
      exact Option.map_eq_none_iff.mpr (Option.map_eq_none_iff.mp closes)
  | loop =>
      have closes := (Option.or_eq_none_iff.mp silent).2
      exact Option.map_eq_none_iff.mpr (Option.map_eq_none_iff.mp closes)

/-- What the opening tags of a kind begin with. -/
def openingText : BlockKind → Text
  | conditional => Tag.ifOpening
  | loop => Tag.foreachOpening

theorem openingText_prefix_of_read {text : Text}
    (read : (kind.checkedOpener.read text).isSome = true) : kind.openingText <+: text := by
  obtain ⟨⟨raw, header, rest⟩, read⟩ := Option.isSome_iff_exists.mp read
  cases kind with
  | conditional | loop =>
      obtain ⟨body, after, _⟩ := Option.bind_eq_some_iff.mp read
      exact ⟨body, (Text.after?_eq_some_iff.mp after).symm⟩

section Tags

variable {text : Text} {tag : PlacedTag} (member : tag ∈ kind.tags text)

include member

theorem exists_read_of_mem_tags : ∃ there rest,
    kind.marks.read there = some (tag.raw, tag.mark, rest) :=
  kind.marks.exists_read_of_mem_pieces (exists_piece_of_mem member)

theorem closedOnce_of_mem_tags : Tag.ClosedOnce tag.raw := by
  obtain ⟨there, rest, read⟩ := exists_read_of_mem_tags member
  exact kind.marks_endsClosed _ _ _ _ read

/-- A closing tag is counted in a block tag exactly if that ends with one. -/
theorem finds_checkedCloser_iff :
    kind.checkedCloser.finds tag.raw = true ↔ kind.closingTag <:+ tag.raw := by
  rw [Matcher.finds_iff]
  constructor
  · rintro ⟨before, rest, whole, read⟩
    obtain ⟨more, rfl⟩ := isSome_checkedCloser_read_iff.mp read
    have once := closedOnce_of_mem_tags member
    rw [whole, ← List.append_assoc] at once
    have closing : Tag.closing <:+: kind.closingTag := by
      cases kind with
      | conditional | loop => decide
    rw [whole, once.eq_nil (closing.trans (List.suffix_append _ _).isInfix), List.append_nil]
    exact List.suffix_append before _
  · rintro ⟨before, whole⟩
    exact ⟨before, kind.closingTag, whole.symm,
      isSome_checkedCloser_read_iff.mpr (List.prefix_refl _)⟩

/-- No opening tag is counted in a closing tag or in a separator. -/
theorem finds_checkedOpener_of_not_isOpening (other : tag.isOpening = false) :
    kind.checkedOpener.finds tag.raw = false := by
  have spelled : tag.raw = kind.closingTag ∨ tag.raw = Tag.elseTag := by
    obtain ⟨closes, separates⟩ := Layout.raw_of_mem member
    cases marked : tag.mark with
    | opens header => simp [isOpening, marked] at other
    | closes => exact .inl (closes marked)
    | separates => exact .inr (separates marked)
  rw [Bool.eq_false_iff]
  intro found
  obtain ⟨before, rest, whole, read⟩ := Matcher.finds_iff.mp found
  have inside : kind.openingText <:+: tag.raw := by
    rw [whole]
    exact (openingText_prefix_of_read read).isInfix.trans (List.suffix_append before rest).isInfix
  rcases spelled with same | same
  · rw [same] at inside
    cases kind with
    | conditional | loop => exact absurd inside (by decide)
  · rw [same] at inside
    cases kind with
    | conditional | loop => exact absurd inside (by decide)

/-- An opening tag with its header on one line is counted. -/
theorem finds_checkedOpener_of_isOneLine (opens : tag.isOpening = true)
    (line : Tag.isOneLine tag.header = true) : kind.checkedOpener.finds tag.raw = true := by
  obtain ⟨there, rest, read⟩ := exists_read_of_mem_tags member
  rw [isOpening_iff.mp opens] at read
  have counted := checkedOpener_read_iff.mpr ⟨opener_read_of_marks read, line⟩
  rw [(kind.marks.sound read).2, kind.checkedOpener_readsTags.readsClosed _ _
    (closedOnce_of_mem_tags member).closing_suffix] at counted
  obtain ⟨_, found, _⟩ := Option.map_eq_some_iff.mp counted
  exact Matcher.finds_iff.mpr ⟨[], tag.raw, rfl, by rw [found]; rfl⟩

end Tags

/-- The opening tags that are counted are those that are not overlooked. -/
theorem length_tokens_checkedOpener (kind : BlockKind) (text : Text) :
    (kind.checkedOpener.tokens text).length + kind.overlooked text =
      (kind.openers text).length := by
  have counted : (kind.checkedOpener.tokens text).length =
      (kind.tags text).countP fun tag => kind.checkedOpener.finds tag.raw :=
    Matcher.length_tokens_eq_countP (fun _ => checkedOpener_read_of_marks_eq_none)
      kind.marks_endsClosed kind.checkedOpener_readsTags 0 text
  have opening : ((kind.tags text).countP fun tag => kind.checkedOpener.finds tag.raw) =
      (kind.openers text).countP fun tag => kind.checkedOpener.finds tag.raw := by
    rw [openers, List.countP_filter]
    apply List.countP_congr
    intro tag member
    rw [Bool.and_eq_true, iff_self_and]
    intro found
    by_contra other
    rw [finds_checkedOpener_of_not_isOpening member (Bool.eq_false_iff.mpr other)] at found
    exact absurd found (by decide)
  rw [counted, opening, overlooked,
    List.length_eq_countP_add_countP fun tag => kind.checkedOpener.finds tag.raw]
  simp

/-- The closing tags are counted, and the opening tags that end with one. -/
theorem length_tokens_checkedCloser (kind : BlockKind) (text : Text) :
    (kind.checkedCloser.tokens text).length =
      (kind.closers text).length + kind.doubled text := by
  have counted : (kind.checkedCloser.tokens text).length =
      (kind.tags text).countP fun tag => kind.checkedCloser.finds tag.raw :=
    Matcher.length_tokens_eq_countP (fun _ => checkedCloser_read_of_marks_eq_none)
      kind.marks_endsClosed kind.checkedCloser_readsTags 0 text
  have opening : ((kind.openers text).countP fun tag => kind.checkedCloser.finds tag.raw) =
      kind.doubled text := by
    apply List.countP_congr
    intro tag member
    rw [decide_eq_true_iff]
    exact finds_checkedCloser_iff (List.mem_filter.mp member).1
  have others : ((kind.tags text).filter fun tag => !tag.isOpening).countP
      (fun tag => kind.checkedCloser.finds tag.raw) = (kind.closers text).length := by
    rw [closers, ← List.countP_eq_length_filter, List.countP_filter]
    apply List.countP_congr
    intro tag member
    rw [Bool.and_eq_true, finds_checkedCloser_iff member, isClosing_iff]
    obtain ⟨closes, separates⟩ := Layout.raw_of_mem member
    cases marked : tag.mark with
    | opens header => simp [isOpening, marked]
    | closes => simp [isOpening, marked, closes marked]
    | separates =>
        have apart : ¬ kind.closingTag <:+ Tag.elseTag := by
          cases kind with
          | conditional | loop => decide
        simp [separates marked, apart]
  rw [counted, ← others, ← opening, openers, Nat.add_comm,
    List.countP_eq_countP_filter_add _ _ isOpening]

/-- In a text in which every tag is in a pair there are as many opening tags as
closing tags. -/
theorem PairsAll.length_eq {kind : BlockKind} {text : Text} (paired : kind.PairsAll text) :
    (kind.openers text).length = (kind.closers text).length := by
  have nodup : (kind.tags text).Nodup := nodup_among (Matcher.solid_pieces kind.marks text) 0
  obtain ⟨fewOpening, fewClosing⟩ := Pairing.length_pairsOf_le (kind.tags text)
  have opening : (kind.openers text).length ≤ (Pairing.pairsOf (kind.tags text)).length := by
    apply Pairing.length_le_of_paired (nodup.filter _) TagPair.opener
    intro tag member
    obtain ⟨pair, found, same | rfl⟩ := paired tag (List.mem_append_left _ member)
    · exact ⟨pair, found, same⟩
    · have opens := isOpening_iff.mp (List.mem_filter.mp member).2
      rw [(Pairing.marks_of_mem_pairsOf found).2] at opens
      exact absurd opens (by simp)
  have closing : (kind.closers text).length ≤ (Pairing.pairsOf (kind.tags text)).length := by
    apply Pairing.length_le_of_paired (nodup.filter _) TagPair.closer
    intro tag member
    obtain ⟨pair, found, rfl | same⟩ := paired tag (List.mem_append_right _ member)
    · have closes := isClosing_iff.mp (List.mem_filter.mp member).2
      rw [(Pairing.marks_of_mem_pairsOf found).1] at closes
      exact absurd closes (by simp)
    · exact ⟨pair, found, same⟩
  exact Nat.le_antisymm (opening.trans fewClosing) (closing.trans fewOpening)

/-- An imbalance is reported exactly if the numbers of opening and closing tags
differ by something else than the opening tags that are overlooked and those
that count as closing tags.  If every tag is in a pair, any such tag leads to a
report; if there is none, the report is right. -/
theorem isReported_iff_miscounted (kind : BlockKind) (template : Text) :
    (∀ opened closed, kind.problem opened closed ∈ Check.problems template ↔
        opened + kind.overlooked template = (kind.openers template).length ∧
          closed = (kind.closers template).length + kind.doubled template ∧ opened ≠ closed) ∧
      (kind.IsReported template ↔
        (kind.openers template).length ≠
          (kind.closers template).length + kind.miscounted template) ∧
      (kind.PairsAll template → (kind.IsReported template ↔ kind.miscounted template ≠ 0)) ∧
      ((∀ tag ∈ kind.openers template,
          Tag.isOneLine tag.header = true ∧ ¬ kind.closingTag <:+ tag.raw) →
        (kind.IsReported template ↔
          (kind.openers template).length ≠ (kind.closers template).length)) := by
  have opening := length_tokens_checkedOpener kind template
  have closing := length_tokens_checkedCloser kind template
  have numbers : ∀ opened closed, kind.problem opened closed ∈ Check.problems template ↔
      opened + kind.overlooked template = (kind.openers template).length ∧
        closed = (kind.closers template).length + kind.doubled template ∧ opened ≠ closed := by
    intro opened closed
    rw [mem_problems_iff]
    omega
  have reported : kind.IsReported template ↔ (kind.openers template).length ≠
      (kind.closers template).length + kind.miscounted template := by
    rw [miscounted]
    constructor
    · rintro ⟨opened, closed, member⟩
      have := (numbers opened closed).mp member
      omega
    · intro differ
      refine ⟨(kind.checkedOpener.tokens template).length,
        (kind.checkedCloser.tokens template).length, mem_problems_iff.mpr ⟨rfl, rfl, ?_⟩⟩
      omega
  refine ⟨numbers, reported, ?_, ?_⟩
  · intro paired
    rw [reported, paired.length_eq]
    omega
  · intro plain
    have seen : kind.overlooked template = 0 := by
      apply List.countP_eq_zero.mpr
      intro tag member
      obtain ⟨among, opens⟩ := List.mem_filter.mp member
      rw [finds_checkedOpener_of_isOneLine among opens (plain tag member).1]
      decide
    have single : kind.doubled template = 0 := by
      apply List.countP_eq_zero.mpr
      intro tag member
      rw [decide_eq_true_iff]
      exact (plain tag member).2
    rw [reported, miscounted, seen, single]
    rfl

/-- A header over two lines in a block whose tags are paired: an imbalance is
reported.  A tag that is never closed, but ends with a closing tag: none is. -/
theorem isReported_spread :
    let spread := Tag.tagged ['i', 'f', ' ', 'a', '\n', 'b'] ++ ('x' :: Tag.endifTag)
    let swallowing := Tag.ifOpening ++ ' ' :: Tag.endifTag
    (conditional.PairsAll spread ∧ conditional.IsReported spread) ∧
      (conditional.openers swallowing).length ≠ (conditional.closers swallowing).length ∧
      ¬ conditional.IsReported swallowing := by
  intro spread swallowing
  constructor
  · have opener : Tag.ifMarks.read spread = some (Tag.tagged ['i', 'f', ' ', 'a', '\n', 'b'],
        .opens ['a', '\n', 'b'], 'x' :: Tag.endifTag) := by decide
    have between : Tag.ifMarks.read ('x' :: Tag.endifTag) = none := by decide
    have closer : Tag.ifMarks.read Tag.endifTag = some (Tag.endifTag, .closes, []) := by decide
    have tags : conditional.tags spread =
        [⟨0, Tag.tagged ['i', 'f', ' ', 'a', '\n', 'b'], .opens ['a', '\n', 'b']⟩,
          ⟨11, Tag.endifTag, .closes⟩] := by
      rw [BlockKind.tags, marks, Matcher.pieces_of_read_some opener,
        Matcher.pieces_of_read_none between, Matcher.pieces_of_read_some closer, Matcher.pieces]
      rfl
    have paired : conditional.PairsAll spread := by
      rw [PairsAll, openers, closers, tags]
      decide
    refine ⟨paired, ((isReported_iff_miscounted conditional spread).2.2.1 paired).mpr ?_⟩
    have silent : conditional.checkedOpener.read
        (Tag.tagged ['i', 'f', ' ', 'a', '\n', 'b'] ++ []) = none := by decide
    have plain := Tag.pieces_tagged_of_read_none conditional.checkedOpener_readsTags.startsOpen
      (by decide) silent
    rw [List.append_nil, Matcher.pieces, List.append_nil] at plain
    rw [miscounted, overlooked, openers, tags]
    simp [isOpening, Matcher.finds, Matcher.tokens, plain, Piece.token?]
  · have read : Tag.ifMarks.read swallowing =
        some (swallowing, .opens ("\x7b\x7bendif".toList), []) := by decide
    have tags : conditional.tags swallowing =
        [⟨0, swallowing, .opens ("\x7b\x7bendif".toList)⟩] := by
      rw [BlockKind.tags, marks, Matcher.pieces_of_read_some read, Matcher.pieces]
      rfl
    have opening : conditional.openers swallowing =
        [⟨0, swallowing, .opens ("\x7b\x7bendif".toList)⟩] := by
      rw [openers, tags]
      rfl
    have closing : conditional.closers swallowing = [] := by
      rw [closers, tags]
      rfl
    have seen : conditional.checkedOpener.finds swallowing = true := by
      rw [Matcher.finds_iff]
      exact ⟨[], swallowing, rfl, by decide⟩
    have all : conditional.overlooked swallowing = 0 := by
      rw [overlooked, opening, List.countP_singleton, seen]
      rfl
    have twice : conditional.doubled swallowing = 1 := by
      rw [doubled, opening]
      decide
    rw [(isReported_iff_miscounted conditional swallowing).2.1, opening, closing, miscounted, all,
      twice]
    decide

end BlockKind

end Stencil
