import Stencil.Proofs.Template.Bindings
import Stencil.Proofs.Template.Functions

/-!
# Texts made of tags

A text in which every brace belongs to a tag is made of inert texts and of tags.
So are the blocks and the gaps between them, be the blocks closed or not, and so
is what comes out when a branch is chosen, a name is filled in or an expression
is replaced by an inert text: no pass makes a tag that was not there.
-/

namespace Stencil

open Tag

/-- Whether every brace of a text belongs to a tag with something inside. -/
def Text.bracesAreTags (text : Text) : Bool :=
  (expressionTag.pieces text).all fun
    | .plain char => isInner char
    | .token _ _ => true

namespace Text

/-- Whether a text consists of inert texts and of tags whose insides are good. -/
inductive Made (good : Text → Prop) : Text → Prop where
  | nil : Made good []
  | inert {content rest : Text} (inert : isInert content = true) (later : Made good rest) :
      Made good (content ++ rest)
  | tag {interior rest : Text} (free : isBraceFree interior = true) (nonempty : interior ≠ [])
      (fine : good interior) (later : Made good rest) : Made good (tagged interior ++ rest)

namespace Made

variable {good : Text → Prop}

theorem append {first later : Text} (here : Made good first) (there : Made good later) :
    Made good (first ++ later) := by
  induction here with
  | nil => exact there
  | inert content _ ih =>
      rw [List.append_assoc]
      exact .inert content ih
  | tag free nonempty fine _ ih =>
      rw [List.append_assoc]
      exact .tag free nonempty fine ih

theorem of_inert {content : Text} (inert : isInert content = true) : Made good content := by
  rw [← List.append_nil content]
  exact .inert inert .nil

theorem of_tag {interior : Text} (free : isBraceFree interior = true) (nonempty : interior ≠ [])
    (fine : good interior) : Made good (tagged interior) := by
  rw [← List.append_nil (tagged interior)]
  exact .tag free nonempty fine .nil

end Made

theorem read_expressionTag {text raw expression rest : Text}
    (read : expressionTag.read text = some (raw, expression, rest)) :
    ∃ interior, raw = tagged interior ∧ isBraceFree interior = true ∧ interior ≠ [] := by
  simp only [expressionTag, Option.bind_eq_bind, Option.bind_eq_some_iff] at read
  obtain ⟨body, _, read⟩ := read
  split at read
  · exact absurd read (by simp)
  · next nonempty =>
      obtain ⟨tail, _, read⟩ := Option.bind_eq_some_iff.mp read
      simp only [Option.some.injEq, Prod.mk.injEq] at read
      refine ⟨body.takeWhile isInner, read.1.symm, List.all_takeWhile, ?_⟩
      simpa using nonempty

theorem made_of_bracesAreTags {good : Text → Prop} {text : Text}
    (tags : bracesAreTags text = true)
    (each : ∀ interior, tagged interior <:+: text → good interior) : Made good text := by
  unfold bracesAreTags at tags
  fun_induction Matcher.pieces expressionTag text with
  | case1 => exact .nil
  | case2 char text raw expression rest read ih =>
      obtain ⟨interior, rfl, free, nonempty⟩ := read_expressionTag read
      rw [List.all_cons, Bool.and_eq_true] at tags
      have whole := (expressionTag.sound read).2
      rw [whole] at each ⊢
      refine .tag free nonempty (each interior (List.prefix_append _ rest).isInfix) (ih tags.2 ?_)
      intro other inside
      exact each other (inside.trans (List.suffix_append _ rest).isInfix)
  | case3 char text read ih =>
      rw [List.all_cons, Bool.and_eq_true] at tags
      have single : isInert [char] = true := isInert_of_isBraceFree (by simpa [isBraceFree] using tags.1)
      exact .inert single (ih tags.2 fun other inside => each other (List.infix_cons inside))

end Text

open Text (Made)

variable {good : Text → Prop}

/-- Whether a block is made of tags, and its header stands inside one of them. -/
structure Block.IsMade (tags : BlockTags) (good : Text → Prop) (block : Block) : Prop where
  opener : Made good block.opener
  header : ∃ interior, Text.isBraceFree interior = true ∧ good interior ∧
    tags.mark? interior = some (.opens block.header)
  body : Made good block.body
  division : ∀ separator rest, block.division = some (separator, rest) →
    Made good separator ∧ Made good rest
  closer : Made good block.closer

namespace Block

theorem made_content {body : Text} {division : Option (Text × Text)} (made : Made good body)
    (divided : ∀ separator rest, division = some (separator, rest) →
      Made good separator ∧ Made good rest) : Made good (content body division) := by
  cases division with
  | none => exact made.append .nil
  | some parts =>
      obtain ⟨separator, rest⟩ := parts
      obtain ⟨madeSeparator, madeRest⟩ := divided separator rest rfl
      exact made.append (madeSeparator.append madeRest)

theorem IsMade.source {tags : BlockTags} {block : Block} (made : block.IsMade tags good) :
    Made good block.source :=
  (made.opener.append (made_content made.body made.division)).append made.closer

theorem IsMade.alternative {tags : BlockTags} {block : Block} (made : block.IsMade tags good) :
    Made good (block.alternative?.getD []) := by
  unfold alternative?
  cases division : block.division with
  | none => exact .nil
  | some parts =>
      obtain ⟨separator, rest⟩ := parts
      exact (made.division separator rest division).2

namespace Inside

/-- Whether what stands up to a closing tag is made of tags, and so is what
follows. -/
structure IsMade (tags : BlockTags) (good : Text → Prop) (inside : Inside) : Prop where
  body : Made good inside.body
  division : ∀ separator rest, inside.division = some (separator, rest) →
    Made good separator ∧ Made good rest
  closer : Made good inside.closer
  rest : ∃ rest, Made good rest ∧ inside.rest = tags.marks.pieces rest

variable {tags : BlockTags} {inside : Inside} (made : inside.IsMade tags good)

include made

theorem IsMade.push {raw : Text} (madeRaw : Made good raw) : (inside.push raw).IsMade tags good :=
  ⟨madeRaw.append made.body, made.division, made.closer, made.rest⟩

theorem IsMade.divide {raw : Text} (madeRaw : Made good raw) :
    (inside.divide raw).IsMade tags good := by
  refine ⟨.nil, ?_, made.closer, made.rest⟩
  intro separator rest same
  cases same
  exact ⟨madeRaw, made_content made.body made.division⟩

end Inside

/-- What is found up to a closing tag is made of tags if the text is. -/
theorem isMade_inside (tags : BlockTags) {text : Text} (made : Made good text) (depth : Nat)
    {inside : Inside} (found : inside? depth (tags.marks.pieces text) = some inside) :
    inside.IsMade tags good := by
  induction made generalizing depth inside with
  | nil => exact absurd found (by simp [Matcher.pieces, inside?])
  | inert content later ih =>
      rw [Matcher.pieces_inert_append tags.opens content, inside?_plain_append] at found
      obtain ⟨inner, here, rfl⟩ := Option.map_eq_some_iff.mp found
      exact (ih depth here).push (.of_inert content)
  | @tag interior rest free nonempty fine later ih =>
      have raw : Made good (tagged interior) := .of_tag free nonempty fine
      cases marked : tags.mark? interior with
      | none =>
          rw [tags.pieces_tagged_of_none free marked, inside?_plain_append] at found
          obtain ⟨inner, here, rfl⟩ := Option.map_eq_some_iff.mp found
          exact (ih depth here).push raw
      | some mark =>
          rw [tags.pieces_tagged_of_some free marked] at found
          cases mark with
          | opens header =>
              rw [inside?] at found
              obtain ⟨inner, here, rfl⟩ := Option.map_eq_some_iff.mp found
              exact (ih (depth + 1) here).push raw
          | closes =>
              cases depth with
              | zero =>
                  cases found
                  exact ⟨.nil, by simp, raw, rest, later, rfl⟩
              | succ depth =>
                  rw [inside?] at found
                  obtain ⟨inner, here, rfl⟩ := Option.map_eq_some_iff.mp found
                  exact (ih depth here).push raw
          | separates =>
              cases depth with
              | zero =>
                  rw [inside?] at found
                  obtain ⟨inner, here, rfl⟩ := Option.map_eq_some_iff.mp found
                  exact (ih 0 here).divide raw
              | succ depth =>
                  rw [inside?] at found
                  obtain ⟨inner, here, rfl⟩ := Option.map_eq_some_iff.mp found
                  exact (ih (depth + 1) here).push raw

end Block

namespace Layout

/-- Whether the blocks and gaps of a layout are made of tags. -/
structure IsMade (tags : BlockTags) (good : Text → Prop) (layout : Layout) : Prop where
  gaps : ∀ part ∈ layout.parts, Made good part.1
  blocks : ∀ part ∈ layout.parts, part.2.IsMade tags good
  tail : Made good layout.tail

theorem IsMade.push {tags : BlockTags} {layout : Layout} (made : layout.IsMade tags good)
    {raw : Text} (madeRaw : Made good raw) : (layout.push raw).IsMade tags good := by
  obtain ⟨parts, tail⟩ := layout
  cases parts with
  | nil => exact ⟨by simp [Layout.push], by simp [Layout.push], madeRaw.append made.tail⟩
  | cons part parts =>
      obtain ⟨gaps, blocks, tailMade⟩ := made
      rw [List.forall_mem_cons] at gaps blocks
      exact ⟨List.forall_mem_cons.mpr ⟨madeRaw.append gaps.1, gaps.2⟩,
        List.forall_mem_cons.mpr ⟨blocks.1, blocks.2⟩, tailMade⟩

/-- The layout of a text made of tags is made of them. -/
theorem isMade_ofText (tags : BlockTags) {text : Text} (made : Made good text) :
    (ofText tags.marks text).IsMade tags good := by
  -- Behind a closed block the text goes on anywhere, so the pieces are counted.
  obtain ⟨bound, short⟩ : ∃ bound, (tags.marks.pieces text).length ≤ bound := ⟨_, Nat.le_refl _⟩
  induction bound generalizing text with
  | zero =>
      have none : tags.marks.pieces text = [] := List.length_eq_zero_iff.mp (by omega)
      rw [ofText, none]
      exact ⟨by simp [ofPieces], by simp [ofPieces], by simpa [ofPieces] using Made.nil⟩
  | succ bound ih =>
      induction made with
      | nil =>
          rw [ofText, Matcher.pieces]
          exact ⟨by simp [ofPieces], by simp [ofPieces], by simpa [ofPieces] using Made.nil⟩
      | inert content later inner =>
          have pieces := Matcher.pieces_inert_append tags.opens content
          rw [pieces, List.length_append] at short
          rw [ofText_plain_append tags (pieces _)]
          exact (inner (by omega)).push (.of_inert content)
      | @tag interior rest free nonempty fine later inner =>
          have raw : Made good (tagged interior) := .of_tag free nonempty fine
          cases marked : tags.mark? interior with
          | none =>
              have pieces := tags.pieces_tagged_of_none free marked rest
              rw [pieces, List.length_append] at short
              rw [ofText_plain_append tags pieces]
              exact (inner (by omega)).push raw
          | some mark =>
              have pieces := tags.pieces_tagged_of_some free marked rest
              rw [pieces, List.length_cons] at short
              have skipped : (ofPieces (tags.marks.pieces rest)).IsMade tags good :=
                inner (by omega)
              rw [ofText, pieces]
              cases mark with
              | opens header =>
                  cases found : Block.inside? 0 (tags.marks.pieces rest) with
                  | none =>
                      rw [ofPieces_of_not_inside? found]
                      exact skipped.push raw
                  | some inside =>
                      have inner := Block.isMade_inside tags later 0 found
                      obtain ⟨behind, madeBehind, same⟩ := inner.rest
                      have shorter := Block.rest_length_lt_of_inside? found
                      rw [same] at shorter
                      have goesOn := ih madeBehind (by omega)
                      rw [ofPieces_of_inside? found, same]
                      refine ⟨List.forall_mem_cons.mpr ⟨.nil, goesOn.gaps⟩,
                        List.forall_mem_cons.mpr ⟨?_, goesOn.blocks⟩, goesOn.tail⟩
                      exact ⟨raw, ⟨interior, free, fine, marked⟩, inner.body, inner.division,
                        inner.closer⟩
              | closes =>
                  rw [ofPieces]
                  · exact skipped.push raw
                  · simp
              | separates =>
                  rw [ofPieces]
                  · exact skipped.push raw
                  · simp

theorem IsMade.mapGaps {tags : BlockTags} {layout : Layout} (made : layout.IsMade tags good)
    {onGap : Text → Text} (kept : ∀ gap, Made good gap → Made good (onGap gap)) :
    Made good (layout.mapGaps onGap) := by
  obtain ⟨parts, tail⟩ := layout
  obtain ⟨gaps, blocks, tailMade⟩ := made
  show Made good ((parts.flatMap fun part => onGap part.1 ++ part.2.source) ++ onGap tail)
  induction parts with
  | nil => exact kept tail tailMade
  | cons part parts ih =>
      rw [List.forall_mem_cons] at gaps blocks
      rw [List.flatMap_cons, List.append_assoc]
      exact ((kept part.1 gaps.1).append blocks.1.source).append (ih gaps.2 blocks.2 tailMade)

theorem IsMade.mapGaps_congr {tags : BlockTags} {layout : Layout} (made : layout.IsMade tags good)
    {onGap other : Text → Text} (same : ∀ gap, Made good gap → onGap gap = other gap) :
    layout.mapGaps onGap = layout.mapGaps other := by
  rw [Layout.mapGaps, Layout.mapGaps, same _ made.tail]
  congr 1
  apply List.flatMap_congr
  rintro ⟨gap, block⟩ member
  show onGap gap ++ block.source = other gap ++ block.source
  rw [same gap (made.gaps (gap, block) member)]

end Layout

namespace Loop

variable {bindings : List (Text × Text)}

section

variable (clear : ∀ binding ∈ bindings,
  Text.isBraceFree binding.1 = true ∧ Text.isInert binding.2 = true)

include clear

theorem made_bind {text : Text} (made : Made good text) : Made good (bind bindings text) := by
  induction made with
  | nil =>
      rw [bind_nil_text]
      exact .nil
  | inert content _ ih =>
      rw [bind_inert_append bindings content]
      exact .inert content ih
  | tag free nonempty fine _ ih =>
      obtain ⟨result, filled, bound⟩ := exists_bind_tagged clear free
      rw [bound]
      rcases filled with rfl | inert
      · exact .tag free nonempty fine ih
      · exact .inert inert ih

theorem made_bindOutside {body : Text} (made : Made good body) :
    Made good (bindOutside bindings body) :=
  (Layout.isMade_ofText BlockTags.ofForeach made).mapGaps fun _ => made_bind clear

end

/-- The bindings of other names than the given one. -/
def besides (name : Text) (bindings : List (Text × Text)) : List (Text × Text) :=
  bindings.filter fun binding => binding.1 ≠ name

section

variable {name : Text}

theorem mem_besides {binding : Text × Text} :
    binding ∈ besides name bindings ↔ binding ∈ bindings ∧ binding.1 ≠ name := by
  simp [besides]

theorem besides_append (first later : List (Text × Text)) :
    besides name (first ++ later) = besides name first ++ besides name later :=
  List.filter_append ..

@[simp] theorem besides_cons_self (content : Text) (bindings : List (Text × Text)) :
    besides name ((name, content) :: bindings) = besides name bindings := by
  simp [besides]

theorem besides_cons_of_ne {binding : Text × Text} (differs : binding.1 ≠ name)
    (bindings : List (Text × Text)) :
    besides name (binding :: bindings) = binding :: besides name bindings := by
  simp [besides, differs]

theorem besides_cons_congr {others : List (Text × Text)} (binding : Text × Text)
    (same : besides name others = besides name bindings) :
    besides name (binding :: others) = besides name (binding :: bindings) := by
  obtain ⟨found, content⟩ := binding
  by_cases here : found = name
  · subst here
    rw [besides_cons_self, besides_cons_self, same]
  · rw [besides_cons_of_ne here, besides_cons_of_ne here, same]

variable (nameFree : Text.isBraceFree name = true)
  (apart : ∀ interior, good interior → ¬ Pads name interior)

include nameFree apart

/-- A name that stands in no tag is filled in nowhere. -/
theorem replaceAll_of_made (content : Text) {text : Text} (made : Made good text) :
    (placeholder name).replaceAll content text = text := by
  induction made with
  | nil => simp [Matcher.replaceAll, Matcher.pieces]
  | inert inert _ ih => rw [replaceAll_inert_append name inert, ih]
  | tag free _ fine _ ih => rw [replaceAll_apart_append nameFree free (apart _ fine), ih]

theorem bind_besides_of_made
    (clear : ∀ binding ∈ besides name bindings,
      Text.isBraceFree binding.1 = true ∧ Text.isInert binding.2 = true)
    {text : Text} (made : Made good text) :
    bind bindings text = bind (besides name bindings) text := by
  induction bindings generalizing text with
  | nil => rfl
  | cons binding bindings ih =>
      obtain ⟨found, content⟩ := binding
      by_cases same : found = name
      · subst same
        rw [besides_cons_self] at clear ⊢
        rw [bind_cons, replaceAll_of_made nameFree apart content made, ih clear made]
      · rw [besides_cons_of_ne same] at clear ⊢
        rw [List.forall_mem_cons] at clear
        have kept : Made good ((placeholder found).replaceAll content text) :=
          made_bind (List.forall_mem_singleton.mpr clear.1) made
        rw [bind_cons, bind_cons, ih clear.2 kept]

theorem bindOutside_congr_of_made {others : List (Text × Text)}
    (clear : ∀ binding ∈ bindings,
      Text.isBraceFree binding.1 = true ∧ Text.isInert binding.2 = true)
    (same : besides name others = besides name bindings) {body : Text} (made : Made good body) :
    bindOutside bindings body = bindOutside others body := by
  have clearRest : ∀ binding ∈ besides name bindings,
      Text.isBraceFree binding.1 = true ∧ Text.isInert binding.2 = true :=
    fun binding member => clear binding (mem_besides.mp member).1
  have clearOthers := clearRest
  rw [← same] at clearOthers
  apply (Layout.isMade_ofText BlockTags.ofForeach made).mapGaps_congr
  intro gap madeGap
  rw [bind_besides_of_made nameFree apart clearRest madeGap,
    bind_besides_of_made nameFree apart clearOthers madeGap, same]

end

end Loop

/-- Whether the functions of a registry make no brace out of values without. -/
def Registry.MakesNoBraces (registry : Registry) : Prop :=
  ∀ name function, registry.get? name = some function →
    ∀ arguments : List Value, (∀ argument ∈ arguments, argument.isBraceFree = true) →
      ∀ value, function arguments = .ok value → value.isBraceFree = true

theorem Registry.KeepsBraceFree.makesNoBraces {registry : Registry}
    (keeps : registry.KeepsBraceFree) : registry.MakesNoBraces := by
  intro name function found arguments clean value ended
  have yields := keeps name function found arguments clean
  rw [ended] at yields
  exact yields.of_ok

/-- A value that is shown without a brace in it is shown as an inert text. -/
theorem Value.isInert_of_display {value : Value} (clean : value.isBraceFree = true) {text : Text}
    (shown : value.display = .ok text) : Text.isInert text = true := by
  have yields := value.yields_display
  rw [shown] at yields
  exact yields.of_ok clean

namespace Filter

variable {registry : Registry} (makes : registry.MakesNoBraces) (policy : Policy)

include makes

theorem isBraceFree_of_step {text : Text} (free : Text.isBraceFree text = true)
    {value result : Value} (clean : value.isBraceFree = true)
    (ended : (step registry policy value text).outcome = .ok result) :
    result.isBraceFree = true := by
  unfold step at ended
  split at ended
  · cases ended
    exact clean
  · next segment found =>
      rw [Logged.outcome_bind] at ended
      obtain ⟨candidate, looked, ended⟩ := exists_of_bind_eq_ok ended
      rw [Registry.outcome_lookup] at looked
      split at looked
      · next function known =>
          cases looked
          apply makes segment.name function known _ _ result ended
          intro argument member
          rcases List.mem_cons.mp member with rfl | inside
          · exact clean
          · obtain ⟨content, among, rfl⟩ := List.mem_map.mp inside
            exact Segment.isBraceFree_arguments free found content among
      · split at looked
        · exact absurd looked (by simp)
        · cases looked
          cases ended
          exact clean

theorem isBraceFree_of_pipeline {segments : List Text}
    (free : ∀ segment ∈ segments, Text.isBraceFree segment = true) {value result : Value}
    (clean : value.isBraceFree = true)
    (ended : (pipeline registry policy segments value).outcome = .ok result) :
    result.isBraceFree = true := by
  induction segments generalizing value with
  | nil =>
      cases ended
      exact clean
  | cons segment segments ih =>
      rw [pipeline, Logged.outcome_bind] at ended
      obtain ⟨next, stepped, ended⟩ := exists_of_bind_eq_ok ended
      exact ih (fun other member => free other (List.mem_cons_of_mem segment member))
        (isBraceFree_of_step makes policy (free segment List.mem_cons_self) clean stepped) ended

end Filter

theorem Helper.Call.isBraceFree_of_evaluate {registry : Registry}
    (makes : registry.MakesNoBraces) (policy : Policy) {context : Entries}
    (contextFree : context.IsBraceFree) {call : Call} (free : Text.isBraceFree call.raw = true)
    {result : Value} (ended : (call.evaluate registry policy context).outcome = .ok result) :
    result.isBraceFree = true := by
  rw [evaluate, Logged.outcome_bind] at ended
  obtain ⟨candidate, looked, ended⟩ := exists_of_bind_eq_ok ended
  rw [Registry.outcome_lookup] at looked
  split at looked
  · next function known =>
      cases looked
      apply makes call.name function known _ _ result ended
      intro argument member
      obtain ⟨part, among, rfl⟩ := List.mem_map.mp member
      exact isBraceFree_argument contextFree (Arguments.isBraceFree_split _ free part among)
  · split at looked
    · exact absurd looked (by simp)
    · cases looked
      cases ended
      rfl

namespace Interpolation

variable {interpolation : Interpolation} (filters : interpolation.filters.MakesNoBraces)
  (helpers : interpolation.helpers.MakesNoBraces)

include filters

theorem isInert_of_finish {segments : List Text}
    (free : ∀ segment ∈ segments, Text.isBraceFree segment = true) {value : Value}
    (clean : value.isBraceFree = true) {text : Text}
    (ended : (interpolation.finish segments value).outcome = .ok text) :
    Text.isInert text = true := by
  rw [finish, Logged.outcome_bind] at ended
  obtain ⟨result, piped, shown⟩ := exists_of_bind_eq_ok ended
  exact Value.isInert_of_display
    (Filter.isBraceFree_of_pipeline filters interpolation.filterPolicy free clean piped) shown

include helpers

/-- A tag stays as it is, or an inert text comes in its place. -/
theorem raw_or_isInert_of_fill {context : Entries} (contextFree : context.IsBraceFree) (raw : Text)
    {expression : Text} (free : Text.isBraceFree expression = true) {text : Text}
    (ended : (interpolation.fill context raw expression).outcome = .ok text) :
    text = raw ∨ Text.isInert text = true := by
  obtain ⟨headFree, segmentsFree⟩ := isBraceFree_split free
  unfold fill at ended
  split at ended
  · cases ended
    exact .inl rfl
  · dsimp only at ended
    split at ended
    · next call found =>
        rw [Logged.outcome_bind] at ended
        obtain ⟨value, evaluated, ended⟩ := exists_of_bind_eq_ok ended
        have clean := Helper.Call.isBraceFree_of_evaluate helpers interpolation.helperPolicy
          contextFree (Helper.Call.isBraceFree_raw headFree found) evaluated
        exact .inr (isInert_of_finish filters segmentsFree clean ended)
    · split at ended
      · rw [outcome_fillUndefined] at ended
        cases ended
        split
        · exact .inl rfl
        · exact .inr rfl
      · exact .inr (isInert_of_finish filters segmentsFree
          (Entries.isBraceFree_resolve contextFree _) ended)

end Interpolation

end Stencil
