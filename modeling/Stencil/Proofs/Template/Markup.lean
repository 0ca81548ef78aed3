import Stencil.Proofs.Template.Functions
import Stencil.Proofs.Template.Printed

/-!
# Markup

What a template is made of when its tags may hold anything: names, pipelines,
calls of helpers.  The tags of markup carry the proof that they are written as
such, its text is balanced in the tags of either kind of block, and what is
written for its parts, one after the other, is the text of markup again.
-/

namespace Stencil

open Tag

/-- A tag that is no part of a block. -/
structure InlineTag where
  interior : Text
  free : Text.isBraceFree interior = true
  nonempty : interior ≠ []
  outsideIf : ifMark? interior = none
  outsideForeach : foreachMark? interior = none

/-- The opening tag of a block with a condition. -/
structure IfTag where
  interior : Text
  header : Text
  free : Text.isBraceFree interior = true
  opens : ifMark? interior = some (.opens header)
  conditional : header ≠ []

/-- The opening tag of a loop, whose names cannot be taken for the inside of
another block tag. -/
structure LoopTag where
  interior : Text
  header : Text
  free : Text.isBraceFree interior = true
  opens : foreachMark? interior = some (.opens header)
  keyName : ifMark? (Loop.Spec.ofText header).keyName = none
  valueName : ifMark? (Loop.Spec.ofText header).valueName = none

/-- What a template is made of, from left to right. -/
inductive Markup where
  | done
  | text (content : Text.Inert) (next : Markup)
  | inline (tag : InlineTag) (next : Markup)
  /-- A block without a separator. -/
  | guarded (tag : IfTag) (body next : Markup)
  /-- A block that a separator divides. -/
  | either (tag : IfTag) (body alternative next : Markup)
  | loop (tag : LoopTag) (body next : Markup)

namespace InlineTag

variable (tag : InlineTag)

theorem isBraceFree_expression : Text.isBraceFree (expression tag.interior) = true := by
  unfold expression
  dsimp only
  split
  · exact Text.isBraceFree_drop tag.free _
  · exact Text.isBraceFree_trim tag.free

/-- Whether the filters and helpers that a tag names are registered. -/
def IsFamiliar (interpolation : Interpolation) (tag : InlineTag) : Prop :=
  interpolation.isFamiliar (expression tag.interior) = true

instance (interpolation : Interpolation) (tag : InlineTag) :
    Decidable (tag.IsFamiliar interpolation) :=
  inferInstanceAs (Decidable (_ = true))

end InlineTag

namespace IfTag

variable (tag : IfTag)

def condition : Condition :=
  Condition.ofText tag.header

theorem exists_interior : ∃ blank rest, tag.interior = 'i' :: 'f' :: blank :: rest ∧
    Text.isBlank blank = true ∧ rest.any (!Text.isBlank ·) = true := by
  have opens := tag.opens
  rcases ifMark?_cases opens with whole | whole | ⟨blank, rest, whole, isBlank, header⟩
  · rw [whole] at opens
    exact absurd opens (by simp [ifMark?])
  · rw [whole] at opens
    exact absurd opens (by simp [ifMark?, elseWord, endifWord])
  · refine ⟨blank, rest, whole, isBlank, ?_⟩
    cases solid : rest.any (!Text.isBlank ·) with
    | true => rfl
    | false =>
        -- A header of blank characters only would be no condition.
        have nothing : Text.trimLeft rest = [] := by
          rw [Text.trimLeft, List.dropWhile_eq_nil_iff]
          simpa using solid
        injection header with same
        exact absurd (same.trans nothing) tag.conditional

theorem foreachMark?_eq_none : foreachMark? tag.interior = none := by
  obtain ⟨blank, rest, whole, _⟩ := tag.exists_interior
  rw [foreachMark?, whole]
  simp [endforeachWord, foreachWord, Text.after?]

theorem isReserved : Interpolation.isReserved (expression tag.interior) = true := by
  obtain ⟨blank, rest, whole, isBlank, solid⟩ := tag.exists_interior
  have left : Text.trimLeft tag.interior = ['i', 'f', blank] ++ rest := by
    rw [whole]
    exact Text.dropWhile_eq_self (by intro char first; cases first; decide)
  have trimmed : Text.trim tag.interior = ['i', 'f', blank] ++ Text.trimRight rest := by
    rw [Text.trim, left, Text.trimRight_append solid]
  simp [expression, trimmed, Interpolation.isReserved, Text.after?, isBlank]

theorem interior_ne_nil : tag.interior ≠ [] := by
  obtain ⟨blank, rest, whole, _⟩ := tag.exists_interior
  simp [whole]

def frame : BlockTags.ofIf.Frame where
  start := tag.interior
  header := tag.header
  finish := endifWord
  startFree := tag.free
  finishFree := endifWord_isBraceFree
  opens := tag.opens
  closes := endifWord_closes

end IfTag

namespace LoopTag

variable (tag : LoopTag)

theorem interior_eq : tag.interior = foreachWord ++ tag.header :=
  eq_append_of_foreachMark? tag.opens

theorem ifMark?_eq_none : ifMark? tag.interior = none := by
  rw [tag.interior_eq]
  simp [ifMark?, foreachWord, endifWord, elseWord, ifWord, Text.after?]

def frame : BlockTags.ofForeach.Frame where
  start := tag.interior
  header := tag.header
  finish := endforeachWord
  startFree := tag.free
  finishFree := endforeachWord_isBraceFree
  opens := tag.opens
  closes := endforeachWord_closes

def spec : Loop.Spec :=
  Loop.Spec.ofText tag.header

def entries (context : Entries) : Entries :=
  (Loop.targetEntries? (Entries.resolve tag.spec.target context)).getD []

def scope (context : Entries) (entry : Value × Value) : Entries :=
  Loop.scope tag.spec context entry.1 entry.2

end LoopTag

namespace Markup

def print : Markup → Text
  | done => []
  | text content next => content.text ++ next.print
  | inline tag next => tagged tag.interior ++ next.print
  | guarded tag body next =>
      tagged tag.interior ++ body.print ++ tagged endifWord ++ next.print
  | either tag body alternative next =>
      tagged tag.interior ++ body.print ++ tagged elseWord ++ alternative.print
        ++ tagged endifWord ++ next.print
  | loop tag body next =>
      tagged tag.interior ++ body.print ++ tagged endforeachWord ++ next.print

def append : Markup → Markup → Markup
  | done, later => later
  | text content next, later => text content (next.append later)
  | inline tag next, later => inline tag (next.append later)
  | guarded tag body next, later => guarded tag body (next.append later)
  | either tag body alternative next, later => either tag body alternative (next.append later)
  | loop tag body next, later => loop tag body (next.append later)

instance : Append Markup := ⟨append⟩

@[simp] theorem done_append (later : Markup) : done ++ later = later := rfl

@[simp] theorem text_append (content : Text.Inert) (next later : Markup) :
    text content next ++ later = text content (next ++ later) := rfl

@[simp] theorem inline_append (tag : InlineTag) (next later : Markup) :
    inline tag next ++ later = inline tag (next ++ later) := rfl

@[simp] theorem guarded_append (tag : IfTag) (body next later : Markup) :
    guarded tag body next ++ later = guarded tag body (next ++ later) := rfl

@[simp] theorem either_append (tag : IfTag) (body alternative next later : Markup) :
    either tag body alternative next ++ later = either tag body alternative (next ++ later) := rfl

@[simp] theorem loop_append (tag : LoopTag) (body next later : Markup) :
    loop tag body next ++ later = loop tag body (next ++ later) := rfl

@[simp] theorem print_append (first later : Markup) :
    (first ++ later).print = first.print ++ later.print := by
  induction first with
  | done => rfl
  | text content next ih => simp [print, ih]
  | inline tag next ih => simp [print, ih]
  | guarded tag body next _ ih => simp [print, ih]
  | either tag body alternative next _ _ ih => simp [print, ih]
  | loop tag body next _ ih => simp [print, ih]

/-- The tags outside loops. -/
def tags : Markup → List InlineTag
  | done => []
  | text _ next => next.tags
  | inline tag next => tag :: next.tags
  | guarded _ body next => body.tags ++ next.tags
  | either _ body alternative next => body.tags ++ alternative.tags ++ next.tags
  | loop _ _ next => next.tags

/-- The loops that are in no other loop, with their bodies. -/
def loops : Markup → List (LoopTag × Markup)
  | done => []
  | text _ next | inline _ next => next.loops
  | guarded _ body next => body.loops ++ next.loops
  | either _ body alternative next => body.loops ++ alternative.loops ++ next.loops
  | loop tag body next => (tag, body) :: next.loops

@[simp] theorem tags_append (first later : Markup) :
    (first ++ later).tags = first.tags ++ later.tags := by
  induction first with
  | done => rfl
  | text content next ih => simp [tags, ih]
  | inline tag next ih => simp [tags, ih]
  | guarded tag body next _ ih => simp [tags, ih]
  | either tag body alternative next _ _ ih => simp [tags, ih]
  | loop tag body next _ ih => simp [tags, ih]

@[simp] theorem loops_append (first later : Markup) :
    (first ++ later).loops = first.loops ++ later.loops := by
  induction first with
  | done => rfl
  | text content next ih => simp [loops, ih]
  | inline tag next ih => simp [loops, ih]
  | guarded tag body next _ ih => simp [loops, ih]
  | either tag body alternative next _ _ ih => simp [loops, ih]
  | loop tag body next _ ih => simp [loops, ih]

theorem print_guarded (tag : IfTag) (body next : Markup) :
    (guarded tag body next).print = (tag.frame.block body.print).source ++ next.print := by
  simp [print, BlockTags.Frame.block, Block.source, Block.content, IfTag.frame]

theorem print_either (tag : IfTag) (body alternative next : Markup) :
    (either tag body alternative next).print =
      (tag.frame.dividedBlock body.print elseWord alternative.print).source ++ next.print := by
  simp [print, BlockTags.Frame.dividedBlock, Block.source, Block.content, IfTag.frame]

theorem print_loop (tag : LoopTag) (body next : Markup) :
    (loop tag body next).print = (tag.frame.block body.print).source ++ next.print := by
  simp [print, BlockTags.Frame.block, Block.source, Block.content, LoopTag.frame]

theorem balanced_ifMarks (markup : Markup) : Block.Balanced BlockTags.ofIf.marks markup.print := by
  induction markup with
  | done => exact BlockTags.ofIf.balanced_nil
  | text content next ih =>
      exact BlockTags.ofIf.balanced_append (BlockTags.ofIf.balanced_inert content.inert) ih
  | inline tag next ih =>
      exact BlockTags.ofIf.balanced_append
        (BlockTags.ofIf.balanced_tagged tag.free tag.outsideIf) ih
  | guarded tag body next bodyIH nextIH =>
      rw [print_guarded]
      exact BlockTags.ofIf.balanced_append (tag.frame.balanced_block bodyIH) nextIH
  | either tag body alternative next bodyIH alternativeIH nextIH =>
      rw [print_either]
      exact BlockTags.ofIf.balanced_append
        (tag.frame.balanced_dividedBlock elseWord_isBraceFree elseWord_separates
          bodyIH alternativeIH) nextIH
  | loop tag body next bodyIH nextIH =>
      have opener := BlockTags.ofIf.balanced_tagged tag.free tag.ifMark?_eq_none
      have closer := BlockTags.ofIf.balanced_tagged endforeachWord_isBraceFree
        endforeachWord_silent
      exact BlockTags.ofIf.balanced_append
        (BlockTags.ofIf.balanced_append (BlockTags.ofIf.balanced_append opener bodyIH) closer)
        nextIH

theorem balanced_foreachMarks (markup : Markup) :
    Block.Balanced BlockTags.ofForeach.marks markup.print := by
  have closer := BlockTags.ofForeach.balanced_tagged endifWord_isBraceFree endifWord_silent
  have separator := BlockTags.ofForeach.balanced_tagged elseWord_isBraceFree elseWord_silent
  induction markup with
  | done => exact BlockTags.ofForeach.balanced_nil
  | text content next ih =>
      exact BlockTags.ofForeach.balanced_append
        (BlockTags.ofForeach.balanced_inert content.inert) ih
  | inline tag next ih =>
      exact BlockTags.ofForeach.balanced_append
        (BlockTags.ofForeach.balanced_tagged tag.free tag.outsideForeach) ih
  | guarded tag body next bodyIH nextIH =>
      have opener := BlockTags.ofForeach.balanced_tagged tag.free tag.foreachMark?_eq_none
      exact BlockTags.ofForeach.balanced_append
        (BlockTags.ofForeach.balanced_append
          (BlockTags.ofForeach.balanced_append opener bodyIH) closer) nextIH
  | either tag body alternative next bodyIH alternativeIH nextIH =>
      have opener := BlockTags.ofForeach.balanced_tagged tag.free tag.foreachMark?_eq_none
      have first := BlockTags.ofForeach.balanced_append
        (BlockTags.ofForeach.balanced_append opener bodyIH) separator
      exact BlockTags.ofForeach.balanced_append
        (BlockTags.ofForeach.balanced_append
          (BlockTags.ofForeach.balanced_append first alternativeIH) closer) nextIH
  | loop tag body next bodyIH nextIH =>
      rw [print_loop]
      exact BlockTags.ofForeach.balanced_append (tag.frame.balanced_block bodyIH) nextIH

end Markup

/-- A computation ends with the text of some markup, or fails, but at no
unknown name. -/
def Gives (fine : Markup → Prop) (outcome : Except Fault Text) : Prop :=
  Yields (fun text => ∃ markup : Markup, text = markup.print ∧ fine markup) outcome

namespace Gives

open Markup

variable {fine good other : Markup → Prop} {first second later : Except Fault Text}

theorem ok (markup : Markup) (here : fine markup) : Gives fine (.ok markup.print) :=
  Yields.ok ⟨markup, rfl, here⟩

theorem imp (gives : Gives fine first) (implies : ∀ markup, fine markup → good markup) :
    Gives good first := by
  refine Yields.imp gives ?_
  rintro text ⟨markup, printed, here⟩
  exact ⟨markup, printed, implies markup here⟩

theorem bind {next : Text → Except Fault Text} (gives : Gives fine first)
    (after : ∀ markup, fine markup → Gives good (next markup.print)) :
    Gives good (first >>= next) := by
  refine Yields.bind gives ?_
  rintro text ⟨markup, rfl, here⟩
  exact after markup here

theorem together (left : Gives fine first) (right : Gives good later)
    (both : ∀ one rest, fine one → good rest → other (one ++ rest)) :
    Gives other (together first later) := by
  refine left.bind fun one here => Yields.bind right ?_
  rintro text ⟨rest, rfl, there⟩
  rw [← print_append]
  exact ok (one ++ rest) (both one rest here there)

/-! One lemma for each part of markup: what is written for the part, if that is
the text of the same part of other markup. -/

theorem text (content : Text.Inert) (rest : Gives fine later)
    (whole : ∀ next, fine next → other (.text content next)) :
    Gives other (Stencil.together (.ok content.text) later) := by
  cases rest with
  | error familiar => exact .error familiar
  | ok written =>
      obtain ⟨next, rfl, there⟩ := written
      exact ok (.text content next) (whole next there)

theorem inline (tag : InlineTag) (rest : Gives fine later)
    (whole : ∀ next, fine next → other (.inline tag next)) :
    Gives other (Stencil.together (.ok (tagged tag.interior)) later) := by
  cases rest with
  | error familiar => exact .error familiar
  | ok written =>
      obtain ⟨next, rfl, there⟩ := written
      exact ok (.inline tag next) (whole next there)

theorem guarded (tag : IfTag) (inside : Gives fine first) (rest : Gives good later)
    (whole : ∀ body next, fine body → good next → other (.guarded tag body next)) :
    Gives other (Stencil.together (Stencil.together (Stencil.together
      (.ok (tagged tag.interior)) first) (.ok (tagged endifWord))) later) := by
  cases inside with
  | error familiar => exact .error familiar
  | ok written =>
      obtain ⟨body, rfl, here⟩ := written
      cases rest with
      | error familiar => exact .error familiar
      | ok written =>
          obtain ⟨next, rfl, there⟩ := written
          exact ok (.guarded tag body next) (whole body next here there)

theorem either {decent : Markup → Prop} (tag : IfTag) (inside : Gives fine first)
    (otherwise : Gives decent second) (rest : Gives good later)
    (whole : ∀ body alternative next, fine body → decent alternative → good next →
      other (.either tag body alternative next)) :
    Gives other (Stencil.together (Stencil.together (Stencil.together (Stencil.together
      (Stencil.together (.ok (tagged tag.interior)) first) (.ok (tagged elseWord))) second)
      (.ok (tagged endifWord))) later) := by
  cases inside with
  | error familiar => exact .error familiar
  | ok written =>
      obtain ⟨body, rfl, here⟩ := written
      cases otherwise with
      | error familiar => exact .error familiar
      | ok written =>
          obtain ⟨alternative, rfl, beside⟩ := written
          cases rest with
          | error familiar => exact .error familiar
          | ok written =>
              obtain ⟨next, rfl, there⟩ := written
              exact ok (.either tag body alternative next)
                (whole body alternative next here beside there)

theorem loop (tag : LoopTag) (inside : Gives fine first) (rest : Gives good later)
    (whole : ∀ body next, fine body → good next → other (.loop tag body next)) :
    Gives other (Stencil.together (Stencil.together (Stencil.together
      (.ok (tagged tag.interior)) first) (.ok (tagged endforeachWord))) later) := by
  cases inside with
  | error familiar => exact .error familiar
  | ok written =>
      obtain ⟨body, rfl, here⟩ := written
      cases rest with
      | error familiar => exact .error familiar
      | ok written =>
          obtain ⟨next, rfl, there⟩ := written
          exact ok (.loop tag body next) (whole body next here there)

end Gives

end Stencil
