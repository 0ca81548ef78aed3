import Stencil.Proofs.Template.Functions
import Stencil.Proofs.Template.Rendered
import Stencil.Proofs.Text.Split

/-!
# Text around a template

Every tag ends with a brace, so that a text without braces is in no tag: it
neither begins nor ends one, whatever it is put before or behind.  Therefore
each pass leaves such a text where it stands and makes of the rest what it makes
of it alone, be the rest well formed or not, and so does a render.
-/

namespace Stencil

namespace Text

variable {tail : Text} (free : isBraceFree tail = true)

include free

theorem after?_append_free {head : Text} (ends : head.getLast? = some '\x7d') (text : Text) :
    after? head (text ++ tail) = (after? head text).map (· ++ tail) := by
  rcases after?_append_cases head text tail with ⟨rest, here, there⟩ | ⟨here, there⟩
  · rw [here, there]
    rfl
  · rw [here]
    cases found : after? head (text ++ tail) with
    | none => rfl
    | some rest =>
        obtain ⟨missing, nonempty, rfl, rfl⟩ := there rest found
        rw [List.getLast?_append_of_ne_nil text nonempty] at ends
        exact absurd (List.mem_append_left rest (List.mem_of_getLast? ends))
          (not_mem_of_isBraceFree free).2

theorem cut?_closing_append (text : Text) :
    cut? Tag.closing (text ++ tail) =
      (cut? Tag.closing text).map fun (before, rest) => (before, rest ++ tail) := by
  induction text with
  | nil =>
      cases found : cut? Tag.closing ([] ++ tail) with
      | none => rfl
      | some cut =>
          have whole := eq_append_of_cut? found
          have member : '\x7d' ∈ tail := by
            rw [show tail = _ from whole]
            simp [Tag.closing]
          exact absurd member (not_mem_of_isBraceFree free).2
  | cons char text ih =>
      rw [List.cons_append, cut?, cut?, ← List.cons_append, after?_append_free free rfl, ih]
      cases after? Tag.closing (char :: text) with
      | some rest => rfl
      | none =>
          cases cut? Tag.closing text <;> rfl

end Text

namespace Matcher

/-- Whether a matcher reads what it reads of a text if a text without braces
follows. -/
def IgnoresTail (matcher : Matcher α) : Prop :=
  ∀ (text : Text) {tail : Text}, Text.isBraceFree tail = true →
    matcher.read (text ++ tail) =
      (matcher.read text).map fun (raw, token, rest) => (raw, token, rest ++ tail)

theorem ignoresTail_literal {word : Text} (nonempty : word ≠ []) (token : α)
    (ends : word.getLast? = some '\x7d') : (literal word nonempty token).IgnoresTail := by
  intro text tail free
  show Option.map _ _ = Option.map _ (Option.map _ _)
  rw [Text.after?_append_free free ends, Option.map_map, Option.map_map]
  rfl

theorem ignoresTail_orElse {first second : Matcher α} (left : first.IgnoresTail)
    (right : second.IgnoresTail) : (first.orElse second).IgnoresTail := by
  intro text tail free
  show (first.read _).or (second.read _) = Option.map _ ((first.read _).or (second.read _))
  rw [left text free, right text free]
  cases first.read text <;> rfl

/-- The tokens of a text are those of the text between texts without braces. -/
theorem pieces_framed {matcher : Matcher α} (opens : matcher.StartsOpen)
    (ignores : matcher.IgnoresTail) {before after : Text}
    (freeBefore : Text.isBraceFree before = true) (freeAfter : Text.isBraceFree after = true)
    (text : Text) :
    matcher.pieces (before ++ text ++ after) =
      before.map .plain ++ (matcher.pieces text ++ after.map .plain) := by
  have tail := pieces_inert_append opens (Text.isInert_of_isBraceFree freeAfter) []
  rw [List.append_nil, pieces, List.append_nil] at tail
  have behind : matcher.pieces (text ++ after) = matcher.pieces text ++ after.map .plain := by
    rw [pieces_append fun rest _ _ => ignores rest freeAfter, tail]
  rw [List.append_assoc, pieces_inert_append opens (Text.isInert_of_isBraceFree freeBefore),
    behind]

end Matcher

namespace Tag

/-- A matcher that reads a beginning of its own, and the rest without regard to
a text without braces behind it. -/
theorem ignoresTail_of_start {matcher : Matcher α} {start : Text}
    {behind : Text → Option (Text × α × Text)}
    (reads : ∀ text, matcher.read text = (Text.after? start text).bind behind)
    (empty : behind [] = none)
    (ignores : ∀ (text : Text) {tail : Text}, Text.isBraceFree tail = true →
      behind (text ++ tail) =
        (behind text).map fun (raw, token, rest) => (raw, token, rest ++ tail)) :
    matcher.IgnoresTail := by
  intro text tail free
  rw [reads, reads]
  rcases Text.after?_append_cases start text tail with ⟨rest, here, there⟩ | ⟨here, there⟩
  · rw [here, there]
    exact ignores rest free
  · rw [here]
    cases found : Text.after? start (text ++ tail) with
    | none => rfl
    | some rest =>
        obtain ⟨missing, _, _, rfl⟩ := there rest found
        rw [Text.isBraceFree_append, Bool.and_eq_true] at free
        show behind ([] ++ rest) = none
        rw [ignores [] free.2, empty]
        rfl

theorem ignoresTail_headed (start : Text) (nonempty : start ≠ []) (spaced : Bool)
    (accepts : Text → Bool) : (headed start nonempty spaced accepts).IgnoresTail := by
  refine ignoresTail_of_start (fun text => rfl) (by cases spaced <;> rfl) ?_
  intro text tail free
  dsimp only
  cases spaced with
  | false =>
      simp only [Bool.false_eq_true, if_false, Bool.false_and, Option.bind_eq_bind,
        Text.cut?_closing_append free text]
      cases Text.cut? closing text with
      | none => rfl
      | some cut =>
          simp only [Option.map_some, Option.bind_some]
          split <;> rfl
  | true =>
      simp only [if_true, Bool.true_and, Option.bind_eq_bind]
      rcases Text.dropWhile_append_cases Text.isBlank text tail with
        ⟨blank, longer⟩ | ⟨same, longer⟩
      · -- The blank characters may go on in the tail, but then nothing closes the tag.
        have unclosed : Text.cut? closing (tail.dropWhile Text.isBlank) = none :=
          Text.cut?_closing_append (Text.isBraceFree_dropWhile Text.isBlank free) []
        have empty : Text.cut? closing [] = none := rfl
        rw [blank, longer, unclosed, empty]
        simp
      · rw [same, longer, Text.cut?_closing_append free]
        cases (text.takeWhile Text.isBlank).isEmpty with
        | true => rfl
        | false =>
            cases Text.cut? closing (text.dropWhile Text.isBlank) with
            | none => rfl
            | some cut =>
                simp only [Option.map_some, Option.bind_some, Bool.false_eq_true, if_false]
                split <;> rfl

theorem ignoresTail_ofHeader {matcher : Matcher Text} (ignores : matcher.IgnoresTail) :
    (Mark.ofHeader matcher).IgnoresTail := by
  intro text tail free
  show Option.map _ _ = Option.map _ (Option.map _ _)
  rw [ignores text free, Option.map_map, Option.map_map]
  rfl

theorem ignoresTail_ifMarks : ifMarks.IgnoresTail :=
  Matcher.ignoresTail_orElse (ignoresTail_ofHeader (ignoresTail_headed _ _ _ _))
    (Matcher.ignoresTail_orElse (Matcher.ignoresTail_literal _ _ rfl)
      (Matcher.ignoresTail_literal _ _ rfl))

theorem ignoresTail_foreachMarks : foreachMarks.IgnoresTail :=
  Matcher.ignoresTail_orElse (ignoresTail_ofHeader (ignoresTail_headed _ _ _ _))
    (Matcher.ignoresTail_literal _ _ rfl)

theorem ignoresTail_expressionTag : expressionTag.IgnoresTail := by
  refine ignoresTail_of_start (fun text => rfl) rfl ?_
  intro text tail free
  dsimp only
  have closed : closing.getLast? = some '\x7d' := rfl
  rcases Text.dropWhile_append_cases isInner text tail with ⟨inner, longer⟩ | ⟨same, longer⟩
  · have all : tail.dropWhile isInner = [] :=
      List.dropWhile_eq_nil_iff.mpr (Text.isInner_of_mem free)
    rw [inner, longer, all]
    simp [closing, Text.after?]
  · rw [same, longer, Text.after?_append_free free closed]
    cases (text.takeWhile isInner).isEmpty with
    | true => rfl
    | false => cases Text.after? closing (text.dropWhile isInner) <;> rfl

end Tag

namespace Block

theorem inside?_append_plain (depth : Nat) (pieces : List (Piece Tag.Mark)) (raw : Text) :
    inside? depth (pieces ++ raw.map .plain) =
      (inside? depth pieces).map fun inside =>
        { inside with rest := inside.rest ++ raw.map .plain } := by
  fun_induction inside? depth pieces with
  | case1 depth =>
      have open' := inside?_plain_append depth raw []
      simpa [inside?] using open'
  | case4 => rfl
  | case2 _ _ _ ih | case3 _ _ _ _ ih | case5 _ _ _ ih | case6 _ _ ih | case7 _ _ _ ih =>
      rw [List.cons_append, inside?, ih, Option.map_map, Option.map_map]
      rfl

end Block

namespace Layout

def extend (layout : Layout) (raw : Text) : Layout :=
  { layout with tail := layout.tail ++ raw }

theorem push_extend (first last : Text) (layout : Layout) :
    (layout.extend last).push first = (layout.push first).extend last := by
  obtain ⟨parts, tail⟩ := layout
  cases parts with
  | nil => simp [push, extend]
  | cons part parts => rfl

theorem ofPieces_append_plain (pieces : List (Piece Tag.Mark)) (raw : Text) :
    ofPieces (pieces ++ raw.map .plain) = (ofPieces pieces).extend raw := by
  fun_induction ofPieces pieces with
  | case1 =>
      have plain := ofPieces_plain_append raw []
      simpa [ofPieces, push, extend] using plain
  | case2 opener header pieces inside found later ih =>
      have more : Block.inside? 0 (pieces ++ raw.map .plain) = _ :=
        Block.inside?_append_plain 0 pieces raw
      rw [found] at more
      rw [List.cons_append, ofPieces_of_inside? more, ih]
      rfl
  | case3 opener header pieces unclosed ih =>
      have more : Block.inside? 0 (pieces ++ raw.map .plain) = _ :=
        Block.inside?_append_plain 0 pieces raw
      rw [unclosed] at more
      rw [List.cons_append, ofPieces_of_not_inside? more, ih, push_extend]
  | case4 piece pieces silent ih =>
      rw [List.cons_append, ofPieces, ih, push_extend]
      exact silent

theorem replace_extend (block : Block → Except Fault Text) (layout : Layout) (raw : Text) :
    (layout.extend raw).replace block = together (layout.replace block) (.ok raw) := by
  obtain ⟨parts, tail⟩ := layout
  show weave pure block parts (tail ++ raw) = together (weave pure block parts tail) (.ok raw)
  induction parts with
  | nil => rfl
  | cons part parts ih =>
      obtain ⟨gap, found⟩ := part
      rw [weave, weave, ih]
      cases block found with
      | error fault => rfl
      | ok written =>
          cases weave pure block parts tail with
          | error fault => rfl
          | ok later =>
              show Except.ok (gap ++ written ++ (later ++ raw)) =
                .ok (gap ++ written ++ later ++ raw)
              rw [List.append_assoc (gap ++ written)]

end Layout

/-- What comes out of a text with others before and behind that stay as they
are. -/
def framed (before after : Text) (outcome : Except Fault Text) : Except Fault Text :=
  together (.ok before) (together outcome (.ok after))

theorem framed_eq_map (before after : Text) (outcome : Except Fault Text) :
    framed before after outcome = outcome.map fun text => before ++ text ++ after := by
  cases outcome with
  | error fault => rfl
  | ok text =>
      show Except.ok (before ++ (text ++ after)) = .ok (before ++ text ++ after)
      rw [List.append_assoc]

section

variable {before after : Text} (freeBefore : Text.isBraceFree before = true)
  (freeAfter : Text.isBraceFree after = true)

/-- A step that leaves texts without braces before and behind as they are may
follow another one. -/
theorem framed_bind {later : Text → Except Fault Text}
    (frames : ∀ text, later (before ++ text ++ after) = framed before after (later text))
    (outcome : Except Fault Text) :
    framed before after outcome >>= later = framed before after (outcome >>= later) := by
  cases outcome with
  | error fault => rfl
  | ok text =>
      rw [framed_eq_map]
      exact frames text

theorem repeated_framed {pass : Text → Except Fault Text}
    (frames : ∀ text, pass (before ++ text ++ after) = framed before after (pass text))
    (count : Nat) (text : Text) :
    repeated pass count (before ++ text ++ after) =
      framed before after (repeated pass count text) := by
  induction count generalizing text with
  | zero => exact (framed_eq_map before after (.ok text)).symm
  | succ count ih =>
      rw [repeated, repeated, frames]
      exact framed_bind ih (pass text)

include freeBefore freeAfter

theorem Layout.replace_framed {marks : Matcher Tag.Mark} (opens : marks.StartsOpen)
    (ignores : marks.IgnoresTail) (block : Block → Except Fault Text) (text : Text) :
    (Layout.ofText marks (before ++ text ++ after)).replace block =
      framed before after ((Layout.ofText marks text).replace block) := by
  rw [Layout.ofText, Matcher.pieces_framed opens ignores freeBefore freeAfter,
    Layout.ofPieces_plain_append, Layout.ofPieces_append_plain, Layout.replace_push,
    Layout.replace_extend]
  rfl

theorem Condition.pass_framed (literalFallback : Bool) (context : Entries) (text : Text) :
    Condition.pass literalFallback context (before ++ text ++ after) =
      framed before after (Condition.pass literalFallback context text) :=
  Layout.replace_framed freeBefore freeAfter Tag.startsOpen_ifMarks Tag.ignoresTail_ifMarks _ text

theorem Loop.room_framed (text : Text) : Loop.room (before ++ text ++ after) = Loop.room text := by
  have none : ∀ {part : Text}, Text.isBraceFree part = true → part.count '\x7b' = 0 :=
    fun free => List.count_eq_zero.mpr fun member =>
      (Text.isInner_iff.mp (Text.isInner_of_mem free _ member)).1 rfl
  rw [Loop.room, Loop.room, List.count_append, List.count_append, none freeBefore, none freeAfter,
    Nat.zero_add, Nat.add_zero]

theorem Loop.Setting.outcome_pass_framed (setting : Loop.Setting) (context : Entries)
    (text : Text) :
    (setting.pass (before ++ text ++ after) context).outcome =
      framed before after (setting.pass text context).outcome := by
  rw [Loop.Setting.pass, Loop.Setting.pass, Loop.room_framed freeBefore freeAfter,
    Loop.Setting.outcome_passWithin, Loop.Setting.outcome_passWithin]
  exact Layout.replace_framed freeBefore freeAfter Tag.startsOpen_foreachMarks
    Tag.ignoresTail_foreachMarks _ text

theorem Interpolation.outcome_pass_framed (interpolation : Interpolation) (context : Entries)
    (text : Text) :
    (interpolation.pass context (before ++ text ++ after)).outcome =
      framed before after (interpolation.pass context text).outcome := by
  rw [Interpolation.pass, Interpolation.pass, Logged.outcome_concat, Logged.outcome_concat,
    Matcher.pieces_framed Tag.startsOpen_expressionTag Tag.ignoresTail_expressionTag freeBefore
      freeAfter,
    joined_append, joined_append, Interpolation.Fills.joined_plain,
    Interpolation.Fills.joined_plain]
  rfl

theorem Rendering.outcome_cycle_framed (rendering : Rendering) (data : Entries) (text : Text) :
    (rendering.cycle data (before ++ text ++ after)).outcome =
      framed before after (rendering.cycle data text).outcome := by
  rw [Rendering.outcome_cycle, Rendering.outcome_cycle,
    Loop.Setting.outcome_pass_framed freeBefore freeAfter]
  refine framed_bind (fun flat => ?_) _
  rw [Condition.pass_framed freeBefore freeAfter]
  refine framed_bind (fun left => ?_) _
  exact Interpolation.outcome_pass_framed freeBefore freeAfter _ data left

end

theorem Rendering.outcome_cycle_nil (rendering : Rendering) (data : Entries) :
    (rendering.cycle data []).outcome = .ok [] := by
  have noPieces : ∀ {α : Type} (matcher : Matcher α), matcher.pieces [] = [] := by
    intro α matcher
    rw [Matcher.pieces]
  have noBlocks : ∀ (marks : Matcher Tag.Mark) (block : Block → Except Fault Text),
      (Layout.ofText marks []).replace block = .ok [] := by
    intro marks block
    rw [Layout.ofText, noPieces, Layout.ofPieces]
    rfl
  rw [Rendering.outcome_cycle, Loop.Setting.pass, Loop.Setting.outcome_passWithin, noBlocks]
  show (do
    let left ← Condition.pass rendering.loops.literalFallback data []
    (rendering.loops.interpolation.pass data left).outcome) = _
  rw [Condition.pass, noBlocks]
  show (rendering.loops.interpolation.pass data []).outcome = _
  rw [Interpolation.pass, noPieces]
  rfl

namespace Engine

variable {engine : Engine} (options : Options) (data : Entries)

/-- Texts without braces before and behind a template stay as they are, whatever
the template renders to or fails at, and such a text renders to itself. -/
theorem renderText_framed (noHooks : engine.hooks = none) :
    (∀ before after template, Text.isBraceFree before = true → Text.isBraceFree after = true →
      (engine.renderText options data (before ++ template ++ after)).outcome =
        (engine.renderText options data template).outcome.map
          fun text => before ++ text ++ after) ∧
      ∀ text, Text.isBraceFree text = true →
        (engine.renderText options data text).outcome = .ok text := by
  constructor
  · intro before after template freeBefore freeAfter
    rw [outcome_renderText options noHooks, outcome_renderText options noHooks,
      repeated_framed ((engine.rendering options).outcome_cycle_framed freeBefore freeAfter data),
      framed_eq_map]
  · intro text free
    have freeToo : Text.isBraceFree ([] : Text) = true := rfl
    have frames := (engine.rendering options).outcome_cycle_framed free freeToo data []
    rw [Rendering.outcome_cycle_nil, framed_eq_map] at frames
    have fixed : ((engine.rendering options).cycle data text).outcome = .ok text := by
      simpa [Except.map] using frames
    rw [outcome_renderText options noHooks]
    exact repeated_of_fixed fixed engine.config.maxPasses

/-- Two names, and a tag and a block that are never closed. -/
def draft : Text := "{{name}}, {{if name}}\x7b\x7bname".toList

/-- A draft between texts, which may look like what its open tag lacks. -/
theorem renderText_draft :
    standard.hooks = none ∧
      Text.isBraceFree "Dear ".toList = true ∧
      Text.isBraceFree " | upper".toList = true ∧
      (standard.renderText Options.default [(.text "name".toList, .text "Ada".toList)]
          ("Dear ".toList ++ draft ++ " | upper".toList)).outcome =
        .ok "Dear Ada, {{if name}}\x7b\x7bname | upper".toList ∧
      (standard.renderText Options.default [(.text "name".toList, .text "Ada".toList)]
          "Dear ".toList).outcome = .ok "Dear ".toList := by
  have alone : (standard.renderText Options.default
      [(.text "name".toList, .text "Ada".toList)] draft).outcome =
        .ok "Ada, {{if name}}\x7b\x7bname".toList := by decide +kernel
  obtain ⟨frames, stays⟩ := renderText_framed Options.default
    [(.text "name".toList, .text "Ada".toList)] (rfl : standard.hooks = none)
  refine ⟨rfl, rfl, rfl, ?_, stays _ rfl⟩
  rw [frames "Dear ".toList " | upper".toList draft rfl rfl, alone]
  rfl

end Engine

end Stencil
