import Stencil.Proofs.Template.Tagged
import Stencil.Proofs.Text.Split
import Stencil.Proofs.Text.Words
import Stencil.Template.Loop

/-!
# What a tag mentions

A condition, an expression and the header of a loop look up only names that
stand in their own text.  Therefore they come to the same in two contexts in
which every part of that text, taken as a name, stands for the same.
-/

namespace Stencil

/-- Whether every part of a text stands for the same in two contexts. -/
def Entries.AgreeWithin (text : Text) (context other : Entries) : Prop :=
  ∀ path, path <:+: text → resolve path context = resolve path other

theorem Entries.agreeWithin_of_lookup {text : Text} {context other : Entries}
    (same : ∀ key, key <:+: text → lookup key context = lookup key other) :
    AgreeWithin text context other := by
  intro path inside
  unfold resolve
  split
  · cases found : Text.split '.' path with
    | nil => exact absurd found (Text.split_ne_nil '.' path)
    | cons first later =>
        have within := (Text.prefix_of_split found).isInfix.trans inside
        rw [walk, walk, same first within]
  · exact same path inside

theorem Entries.AgreeWithin.part {text part : Text} {context other : Entries}
    (agree : AgreeWithin text context other) (inside : part <:+: text) :
    AgreeWithin part context other :=
  fun path within => agree path (within.trans inside)

namespace Text

theorem infix_of_cut? {needle text before rest : Text}
    (found : cut? needle text = some (before, rest)) : before <:+: text ∧ rest <:+: text := by
  have whole := eq_append_of_cut? found
  constructor
  · exact ⟨[], needle ++ rest, by rw [whole]; simp⟩
  · exact ⟨before ++ needle, [], by rw [whole]; simp⟩

theorem infix_of_after? {head text rest : Text} (found : after? head text = some rest) :
    rest <:+: text :=
  ⟨head, [], by rw [after?_eq_some_iff.mp found]; simp⟩

theorem trimLeft_infix (text : Text) : trimLeft text <:+: text :=
  (List.dropWhile_suffix isBlank).isInfix

theorem tail_infix (text : Text) : text.tail <:+: text :=
  (List.tail_suffix text).isInfix

end Text

namespace Arguments

theorem infix_stretches (delimiter : Text) (quote : Option Char) (text : Text) :
    (stretches delimiter quote text).1 <+: text ∧
      ∀ stretch ∈ (stretches delimiter quote text).2, stretch <:+: text := by
  induction text generalizing quote with
  | nil => exact ⟨List.prefix_refl [], by simp [stretches]⟩
  | cons char text ih =>
      -- A character joins the first stretch, whatever quote is open.
      have pushed : ∀ open?, (push char (stretches delimiter open? text)).1 <+: char :: text ∧
          ∀ stretch ∈ (push char (stretches delimiter open? text)).2, stretch <:+: char :: text := by
        intro open?
        obtain ⟨first, later⟩ := ih open?
        exact ⟨List.prefix_cons_inj char |>.mpr first,
          fun stretch member => List.infix_cons (later stretch member)⟩
      cases quote with
      | some mark => exact pushed _
      | none =>
          rw [stretches]
          split
          · exact pushed _
          · split
            · obtain ⟨first, later⟩ := ih none
              refine ⟨List.nil_prefix, ?_⟩
              intro stretch member
              rcases List.mem_cons.mp member with rfl | inside
              · exact List.infix_cons first.isInfix
              · exact List.infix_cons (later stretch inside)
            · exact pushed _

theorem infix_parts {first : Text} {later : List Text} {text : Text} (here : first <:+: text)
    (rest : ∀ stretch ∈ later, stretch <:+: text) :
    ∀ part ∈ parts first later, part <:+: text := by
  induction later generalizing first with
  | nil =>
      intro part member
      rw [parts] at member
      split at member
      · exact absurd member List.not_mem_nil
      · rw [List.mem_singleton.mp member]
        exact (Text.trim_infix first).trans here
  | cons next later ih =>
      intro part member
      rcases List.mem_cons.mp member with rfl | inside
      · exact (Text.trim_infix first).trans here
      · exact ih (rest next List.mem_cons_self)
          (fun stretch among => rest stretch (List.mem_cons_of_mem next among)) part inside

theorem infix_split (delimiter text : Text) :
    ∀ part ∈ split delimiter text, part <:+: text := by
  obtain ⟨first, later⟩ := infix_stretches delimiter none text
  exact infix_parts first.isInfix later

end Arguments

namespace Condition

/-- The names and literals of a condition. -/
def operands : Condition → List Text
  | name path | negation path => [path]
  | comparison _ left right => [left, right]

theorem infix_operands (header : Text) : ∀ part ∈ (ofText header).operands, part <:+: header := by
  have trimmed := Text.trim_infix header
  unfold ofText
  dsimp only
  split
  · intro part member
    rw [List.mem_singleton.mp member]
    exact (Text.trim_infix _).trans ((Text.tail_infix _).trans trimmed)
  · split
    · next sign left right found =>
        obtain ⟨comparison, _, cut⟩ := List.exists_of_findSome?_eq_some found
        obtain ⟨⟨before, rest⟩, cut, same⟩ := Option.map_eq_some_iff.mp cut
        cases same
        obtain ⟨infixBefore, infixRest⟩ := Text.infix_of_cut? cut
        intro part member
        simp only [operands, List.mem_cons, List.not_mem_nil, or_false] at member
        rcases member with rfl | rfl
        · exact (Text.trim_infix _).trans (infixBefore.trans trimmed)
        · exact (Text.trim_infix _).trans (infixRest.trans trimmed)
    · intro part member
      rw [List.mem_singleton.mp member]
      exact trimmed

variable {context other : Entries}

theorem holds_congr (literalFallback : Bool) {condition : Condition}
    (same : ∀ path ∈ condition.operands,
      Entries.resolve path context = Entries.resolve path other) :
    condition.holds literalFallback context = condition.holds literalFallback other := by
  cases condition with
  | name path | negation path =>
      rw [holds, holds, same path (List.mem_singleton_self path)]
  | comparison sign left right =>
      rw [holds, holds, operand, operand, operand, operand, same left (by simp [operands]),
        same right (by simp [operands])]

theorem branch_congr (literalFallback : Bool) {block : Block}
    (agree : Entries.AgreeWithin block.header context other) :
    branch literalFallback context block = branch literalFallback other block := by
  rw [branch, branch, holds_congr literalFallback fun path member =>
    agree path (infix_operands block.header path member)]

end Condition

namespace Loop.Spec

theorem infix_of_blanks? {text rest : Text} (found : blanks? text = some rest) :
    rest <:+: text := by
  unfold blanks? at found
  split at found
  · split at found
    · cases found
      exact List.infix_cons (Text.trimLeft_infix _)
    · exact absurd found (by simp)
  · exact absurd found (by simp)

theorem infix_of_word? {allowed : Char → Bool} {text word rest : Text}
    (found : word? allowed text = some (word, rest)) : word <:+: text ∧ rest <:+: text := by
  unfold word? at found
  split at found
  · exact absurd found (by simp)
  · cases found
    exact ⟨(List.takeWhile_prefix allowed).isInfix, (List.dropWhile_suffix allowed).isInfix⟩

theorem infix_ofText (header : Text) :
    (ofText header).target <:+: header ∧
      ((ofText header).keyName <:+: header ∧ (ofText header).valueName <:+: header ∨
        (ofText header).keyName = "index".toList ∧
          (ofText header).valueName = "item".toList) := by
  have trimmed := Text.trim_infix header
  unfold ofText
  dsimp only
  cases named : named? (Text.trim header) with
  | none => exact ⟨trimmed, .inr ⟨rfl, rfl⟩⟩
  | some spec =>
      simp only [named?, Option.bind_eq_bind, Option.bind_eq_some_iff, Prod.exists] at named
      obtain ⟨target, _, targetWord, _, blanks, _, after, _, moreBlanks, keyName, _, keyWord, _,
        arrow, valueName, _, valueWord, ended⟩ := named
      split at ended
      · cases ended
        obtain ⟨targetInside, behindTarget⟩ := infix_of_word? targetWord
        have beforeKey := (infix_of_blanks? moreBlanks).trans ((Text.infix_of_after? after).trans
          ((infix_of_blanks? blanks).trans (behindTarget.trans trimmed)))
        obtain ⟨keyInside, behindKey⟩ := infix_of_word? keyWord
        have beforeValue := (Text.trimLeft_infix _).trans ((Text.infix_of_after? arrow).trans
          ((Text.trimLeft_infix _).trans (behindKey.trans beforeKey)))
        exact ⟨targetInside.trans trimmed, .inl ⟨keyInside.trans beforeKey,
          (infix_of_word? valueWord).1.trans beforeValue⟩⟩
      · exact absurd ended (by simp)

end Loop.Spec

namespace Helper.Call

theorem infix_raw {text : Text} {call : Call} (found : ofText? text = some call) :
    call.raw <:+: text := by
  have ended : withoutLineEnd (text.dropWhile Text.isNameChar) <:+: text := by
    have after : text.dropWhile Text.isNameChar <:+: text :=
      (List.dropWhile_suffix Text.isNameChar).isInfix
    unfold withoutLineEnd
    split
    · exact (List.dropLast_prefix _).isInfix.trans after
    · exact after
  unfold ofText? at found
  dsimp only at found
  split at found
  · exact absurd found (by simp)
  · split at found
    · next rest inside =>
        rw [inside] at ended
        split at found
        · cases found
          exact (List.dropLast_prefix rest).isInfix.trans
            ((List.suffix_cons '(' rest).isInfix.trans ended)
        · exact absurd found (by simp)
    · exact absurd found (by simp)

theorem evaluate_congr (registry : Registry) (policy : Policy) {context other : Entries}
    {call : Call} (agree : Entries.AgreeWithin call.raw context other) :
    call.evaluate registry policy context = call.evaluate registry policy other := by
  have same : arguments call.raw context = arguments call.raw other := by
    apply List.map_congr_left
    intro part member
    rw [argument, argument, agree part (Arguments.infix_split _ _ part member)]
  rw [evaluate, evaluate, same]

end Helper.Call

namespace Interpolation

theorem infix_head (expression : Text) : (split expression).1 <:+: expression := by
  have inside := Arguments.infix_split ['|'] expression
  unfold split
  split
  · next head segments found =>
      rw [found] at inside
      exact inside head List.mem_cons_self
  · exact List.infix_refl expression

theorem fill_congr (interpolation : Interpolation) {context other : Entries} (raw : Text)
    {expression : Text} (agree : Entries.AgreeWithin expression context other) :
    interpolation.fill context raw expression = interpolation.fill other raw expression := by
  have head := infix_head expression
  unfold fill
  split
  · rfl
  · dsimp only
    split
    · next call found =>
        rw [Helper.Call.evaluate_congr _ _
          ((agree.part head).part (Helper.Call.infix_raw found))]
    · rw [agree _ head]

end Interpolation

namespace Tag

theorem infix_expression (interior : Text) : expression interior <:+: interior := by
  unfold expression
  dsimp only
  split
  · exact (List.drop_suffix _ interior).isInfix
  · exact Text.trim_infix interior

theorem infix_of_ifMark? {interior header : Text}
    (marked : ifMark? interior = some (.opens header)) : header <:+: interior := by
  rcases ifMark?_cases marked with rfl | rfl | ⟨blank, rest, rfl, _, same⟩
  · exact absurd marked (by simp [ifMark?])
  · exact absurd marked (by simp [ifMark?, elseWord, endifWord])
  · cases same
    exact (Text.trimLeft_infix rest).trans ⟨['i', 'f', blank], [], by simp⟩

theorem infix_of_foreachMark? {interior header : Text}
    (marked : foreachMark? interior = some (.opens header)) : header <:+: interior :=
  ⟨foreachWord, [], by rw [eq_append_of_foreachMark? marked]; simp⟩

end Tag

end Stencil
