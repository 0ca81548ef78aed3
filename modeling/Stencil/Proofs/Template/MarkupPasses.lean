import Stencil.Proofs.Template.Markup

/-!
# Passes over markup

Each pass over the text of markup gives the text of markup again, or fails.
The pass over conditions leaves branches of the outermost blocks; the pass over
expressions and the filling in of bound names put texts in which no tag begins
in the place of tags; the pass over loops puts there what the loops expand to.
None of them fails at an unknown name, unless it fills in a tag with one.
-/

namespace Stencil

open Tag

namespace Markup

/-- One markup is another one in which each outermost `if` block is the branch
that its condition selects.  Whether the blocks inside a loop are decided
likewise is left open. -/
inductive Peels (literalFallback : Bool) (context : Entries) : Markup → Markup → Prop where
  | done : Peels literalFallback context done done
  | text {next later : Markup} (content : Text.Inert)
      (rest : Peels literalFallback context next later) :
      Peels literalFallback context (text content next) (text content later)
  | inline {next later : Markup} (tag : InlineTag)
      (rest : Peels literalFallback context next later) :
      Peels literalFallback context (inline tag next) (inline tag later)
  | guarded {tag : IfTag} {body next later : Markup} {selected : Bool}
      (holds : tag.condition.holds literalFallback context = .ok selected)
      (rest : Peels literalFallback context next later) :
      Peels literalFallback context (guarded tag body next)
        ((if selected then body else Markup.done) ++ later)
  | either {tag : IfTag} {body alternative next later : Markup} {selected : Bool}
      (holds : tag.condition.holds literalFallback context = .ok selected)
      (rest : Peels literalFallback context next later) :
      Peels literalFallback context (either tag body alternative next)
        ((if selected then body else alternative) ++ later)
  | loop {tag : LoopTag} {body inner next later : Markup}
      (inside : Peels literalFallback context body inner)
      (rest : Peels literalFallback context next later) :
      Peels literalFallback context (loop tag body next) (loop tag inner later)
  | untouched {tag : LoopTag} {body next later : Markup}
      (rest : Peels literalFallback context next later) :
      Peels literalFallback context (loop tag body next) (loop tag body later)

section Conditions

variable (literalFallback : Bool) (context : Entries)

/-- A block becomes the markup of the branch that its condition selects. -/
theorem gives_branch (tag : IfTag) (body alternative : Markup) {block : Block}
    (header : block.header = tag.header) (first : block.body = body.print)
    (second : block.alternative?.getD [] = alternative.print) :
    Gives (fun left => ∃ selected, tag.condition.holds literalFallback context = .ok selected ∧
        left = if selected then body else alternative)
      (Condition.branch literalFallback context block) := by
  have familiar := Condition.yields_holds literalFallback context tag.condition
  rw [Condition.branch, header, first, second]
  show Yields _ (tag.condition.holds literalFallback context >>= _)
  cases decided : tag.condition.holds literalFallback context with
  | error fault =>
      rw [decided] at familiar
      cases familiar with
      | error familiar => exact .error familiar
  | ok selected =>
      cases selected with
      | true => exact Gives.ok body ⟨true, rfl, rfl⟩
      | false => exact Gives.ok alternative ⟨false, rfl, rfl⟩

theorem exists_rewrites_peels (markup : Markup) :
    ∃ result, Rewrites BlockTags.ofIf.marks (Condition.branch literalFallback context)
        markup.print result ∧
      Gives (Peels literalFallback context markup) result := by
  induction markup with
  | done => exact ⟨.ok [], Rewrites.nil, Gives.ok done .done⟩
  | text content next ih =>
      obtain ⟨result, rewrites, gives⟩ := ih
      exact ⟨_, Rewrites.append (Rewrites.inert content.inert) rewrites,
        gives.text content fun _ rest => .text content rest⟩
  | inline tag next ih =>
      obtain ⟨result, rewrites, gives⟩ := ih
      exact ⟨_, Rewrites.append (Rewrites.tagged BlockTags.ofIf _ tag.free tag.outsideIf) rewrites,
        gives.inline tag fun _ rest => .inline tag rest⟩
  | guarded tag body next _ ih =>
      obtain ⟨result, rewrites, gives⟩ := ih
      have block := Rewrites.block (Condition.branch literalFallback context) tag.frame
        (balanced_ifMarks body)
      rw [print_guarded]
      refine ⟨_, Rewrites.append block rewrites,
        (gives_branch literalFallback context tag body done rfl rfl rfl).together gives ?_⟩
      rintro one later ⟨selected, holds, rfl⟩ rest
      exact .guarded holds rest
  | either tag body alternative next _ _ ih =>
      obtain ⟨result, rewrites, gives⟩ := ih
      have block := Rewrites.dividedBlock (Condition.branch literalFallback context) tag.frame
        elseWord_isBraceFree elseWord_separates (balanced_ifMarks body)
        (balanced_ifMarks alternative)
      rw [print_either]
      refine ⟨_, Rewrites.append block rewrites,
        (gives_branch literalFallback context tag body alternative rfl rfl rfl).together gives
          ?_⟩
      rintro one later ⟨selected, holds, rfl⟩ rest
      exact .either holds rest
  | loop tag body next bodyIH nextIH =>
      obtain ⟨inner, insideRewrites, insideGives⟩ := bodyIH
      obtain ⟨result, rewrites, gives⟩ := nextIH
      have opener := Rewrites.tagged BlockTags.ofIf (Condition.branch literalFallback context)
        tag.free tag.ifMark?_eq_none
      have closer := Rewrites.tagged BlockTags.ofIf (Condition.branch literalFallback context)
        endforeachWord_isBraceFree endforeachWord_silent
      exact ⟨_, Rewrites.append (Rewrites.append (Rewrites.append opener insideRewrites) closer)
          rewrites,
        insideGives.loop tag gives fun _ _ inside rest => .loop inside rest⟩

/-- The pass over the conditions of markup leaves the branches that the
conditions select. -/
theorem gives_conditionPass (markup : Markup) :
    Gives (Peels literalFallback context markup)
      (Condition.pass literalFallback context markup.print) := by
  obtain ⟨result, rewrites, gives⟩ := exists_rewrites_peels literalFallback context markup
  have whole : Condition.pass literalFallback context markup.print = result := rewrites.whole
  rw [whole]
  exact gives

end Conditions

/-- What a decision selects; nothing, if it fails. -/
def chosen (decided : Except Fault Bool) (body alternative : List α) : List α :=
  match decided with
  | .ok true => body
  | .ok false => alternative
  | .error _ => []

/-- Whether the tags of one list are of another one, or as they should be. -/
def AddsOnly (good : InlineTag → Prop) (before left : List InlineTag) : Prop :=
  ∀ tag ∈ left, tag ∈ before ∨ good tag

namespace AddsOnly

variable {good : InlineTag → Prop} {before left first one : List InlineTag}

theorem nil : AddsOnly good before [] :=
  fun _ member => absurd member List.not_mem_nil

theorem of_forall (all : ∀ tag ∈ left, good tag) : AddsOnly good [] left :=
  fun tag member => .inr (all tag member)

theorem forall_mem (adds : AddsOnly good before left) (all : ∀ tag ∈ before, good tag) :
    ∀ tag ∈ left, good tag := by
  intro tag member
  rcases adds tag member with inside | fine
  · exact all tag inside
  · exact fine

theorem append (here : AddsOnly good before left) (there : AddsOnly good first one) :
    AddsOnly good (before ++ first) (left ++ one) := by
  intro tag member
  rcases List.mem_append.mp member with inside | after
  · exact (here tag inside).imp_left (List.mem_append_left first)
  · exact (there tag after).imp_left (List.mem_append_right before)

theorem skip (tag : InlineTag) (rest : AddsOnly good before left) :
    AddsOnly good (tag :: before) left :=
  fun other member => (rest other member).imp_left (List.mem_cons_of_mem tag)

theorem cons (tag : InlineTag) (rest : AddsOnly good before left) :
    AddsOnly good (tag :: before) (tag :: left) := by
  intro other member
  rcases List.mem_cons.mp member with rfl | inside
  · exact .inl List.mem_cons_self
  · exact rest.skip tag other inside

theorem chosen {body inner alternative other : List InlineTag}
    (inside : AddsOnly good body inner) (otherwise : AddsOnly good alternative other)
    (decided : Except Fault Bool) :
    AddsOnly good (chosen decided body alternative) (chosen decided inner other) := by
  cases decided with
  | error fault => exact nil
  | ok selected =>
      cases selected with
      | true => exact inside
      | false => exact otherwise

theorem chosen_append (decided : Except Fault Bool) (body alternative : List InlineTag) :
    AddsOnly good (body ++ alternative) (Markup.chosen decided body alternative) := by
  intro tag member
  cases decided with
  | error fault => exact absurd member List.not_mem_nil
  | ok selected =>
      cases selected with
      | true => exact .inl (List.mem_append_left alternative member)
      | false => exact .inl (List.mem_append_right body member)

end AddsOnly

/-- The tags outside loops that are left when the outermost blocks have been
decided. -/
def keptTags (literalFallback : Bool) (context : Entries) : Markup → List InlineTag
  | done => []
  | text _ next | loop _ _ next => next.keptTags literalFallback context
  | inline tag next => tag :: next.keptTags literalFallback context
  | guarded tag body next =>
      chosen (tag.condition.holds literalFallback context) body.tags []
        ++ next.keptTags literalFallback context
  | either tag body alternative next =>
      chosen (tag.condition.holds literalFallback context) body.tags alternative.tags
        ++ next.keptTags literalFallback context

theorem keptTags_append (literalFallback : Bool) (context : Entries) (first later : Markup) :
    (first ++ later).keptTags literalFallback context =
      first.keptTags literalFallback context ++ later.keptTags literalFallback context := by
  induction first with
  | done => rfl
  | text content next ih => simp [keptTags, ih]
  | inline tag next ih => simp [keptTags, ih]
  | guarded tag body next _ ih => simp [keptTags, ih]
  | either tag body alternative next _ _ ih => simp [keptTags, ih]
  | loop tag body next _ ih => simp [keptTags, ih]

/-- A tag that is left has been there before. -/
theorem addsOnly_keptTags (good : InlineTag → Prop) (literalFallback : Bool) (context : Entries)
    (markup : Markup) :
    AddsOnly good markup.tags (markup.keptTags literalFallback context) := by
  induction markup with
  | done => exact .nil
  | text content next ih => exact ih
  | inline tag next ih => exact ih.cons tag
  | guarded tag body next _ ih =>
      have inside : AddsOnly good (body.tags ++ [])
          (chosen (tag.condition.holds literalFallback context) body.tags []) :=
        AddsOnly.chosen_append _ body.tags []
      rw [List.append_nil] at inside
      exact inside.append ih
  | either tag body alternative next _ _ ih =>
      exact (AddsOnly.chosen_append _ body.tags alternative.tags).append ih
  | loop tag body next _ ih => exact ih

namespace Peels

variable {literalFallback : Bool} {context : Entries} {markup left : Markup}

theorem tags_eq (peels : Peels literalFallback context markup left) :
    left.tags = markup.keptTags literalFallback context := by
  induction peels with
  | done => rfl
  | text content _ ih => exact ih
  | inline tag _ ih => rw [tags, keptTags, ih]
  | @guarded tag body next later selected holds _ ih =>
      rw [tags_append, ih, keptTags, holds]
      cases selected <;> rfl
  | @either tag body alternative next later selected holds _ ih =>
      rw [tags_append, ih, keptTags, holds]
      cases selected <;> rfl
  | loop _ _ _ ih => exact ih
  | untouched _ ih => exact ih

theorem loops_eq_nil (peels : Peels literalFallback context markup left)
    (loopFree : markup.loops = []) : left.loops = [] := by
  induction peels with
  | done => rfl
  | text content _ ih => exact ih loopFree
  | inline tag _ ih => exact ih loopFree
  | @guarded tag body next later selected _ _ ih =>
      rw [loops, List.append_eq_nil_iff] at loopFree
      rw [loops_append, ih loopFree.2, List.append_nil]
      cases selected with
      | true => exact loopFree.1
      | false => rfl
  | @either tag body alternative next later selected _ _ ih =>
      rw [loops, List.append_eq_nil_iff, List.append_eq_nil_iff] at loopFree
      rw [loops_append, ih loopFree.2, List.append_nil]
      cases selected with
      | true => exact loopFree.1.1
      | false => exact loopFree.1.2
  | loop _ _ _ _ => exact absurd loopFree (by simp [loops])
  | untouched _ _ => exact absurd loopFree (by simp [loops])

end Peels

/-- One markup is another one in which some tags outside loops are texts in
which no tag begins. -/
inductive Filled : Markup → Markup → Prop where
  | done : Filled done done
  | text {next later : Markup} (content : Text.Inert) (rest : Filled next later) :
      Filled (text content next) (text content later)
  | kept {next later : Markup} (tag : InlineTag) (rest : Filled next later) :
      Filled (inline tag next) (inline tag later)
  | shown {next later : Markup} (tag : InlineTag) (content : Text.Inert)
      (rest : Filled next later) :
      Filled (inline tag next) (Markup.text content later)
  | guarded {body inner next later : Markup} (tag : IfTag) (inside : Filled body inner)
      (rest : Filled next later) :
      Filled (guarded tag body next) (guarded tag inner later)
  | either {body inner alternative other next later : Markup} (tag : IfTag)
      (inside : Filled body inner) (otherwise : Filled alternative other)
      (rest : Filled next later) :
      Filled (either tag body alternative next) (either tag inner other later)
  | loop {next later : Markup} (tag : LoopTag) (body : Markup) (rest : Filled next later) :
      Filled (loop tag body next) (loop tag body later)

namespace Filled

theorem refl (markup : Markup) : Filled markup markup := by
  induction markup with
  | done => exact .done
  | text content next ih => exact .text content ih
  | inline tag next ih => exact .kept tag ih
  | guarded tag body next bodyIH nextIH => exact .guarded tag bodyIH nextIH
  | either tag body alternative next bodyIH alternativeIH nextIH =>
      exact .either tag bodyIH alternativeIH nextIH
  | loop tag body next _ nextIH => exact .loop tag body nextIH

theorem append {first one later rest : Markup} (left : Filled first one)
    (right : Filled later rest) : Filled (first ++ later) (one ++ rest) := by
  induction left with
  | done => exact right
  | text content _ ih => exact .text content ih
  | kept tag _ ih => exact .kept tag ih
  | shown tag content _ ih => exact .shown tag content ih
  | guarded tag inside _ _ ih => exact .guarded tag inside ih
  | either tag inside otherwise _ _ _ ih => exact .either tag inside otherwise ih
  | loop tag body _ ih => exact .loop tag body ih

theorem select {first one later rest : Markup} (selected : Bool) (left : Filled first one)
    (right : Filled later rest) :
    Filled (if selected then first else later) (if selected then one else rest) := by
  cases selected with
  | true => exact left
  | false => exact right

/-- Deciding conditions after tags have been filled in is deciding them before,
and filling in the same tags. -/
theorem exists_peels {literalFallback : Bool} {context : Entries} {markup filled left : Markup}
    (fills : Filled markup filled) (peels : Peels literalFallback context filled left) :
    ∃ before, Peels literalFallback context markup before ∧ Filled before left := by
  induction fills generalizing left with
  | done =>
      cases peels with
      | done => exact ⟨Markup.done, .done, .done⟩
  | text content _ ih =>
      cases peels with
      | text _ rest =>
          obtain ⟨before, peeled, same⟩ := ih rest
          exact ⟨_, .text content peeled, .text content same⟩
  | kept tag _ ih =>
      cases peels with
      | inline _ rest =>
          obtain ⟨before, peeled, same⟩ := ih rest
          exact ⟨_, .inline tag peeled, .kept tag same⟩
  | shown tag content _ ih =>
      cases peels with
      | text _ rest =>
          obtain ⟨before, peeled, same⟩ := ih rest
          exact ⟨_, .inline tag peeled, .shown tag content same⟩
  | guarded tag inside _ _ ih =>
      cases peels with
      | guarded holds rest =>
          obtain ⟨before, peeled, same⟩ := ih rest
          exact ⟨_, .guarded holds peeled, (select _ inside .done).append same⟩
  | either tag inside otherwise _ _ _ ih =>
      cases peels with
      | either holds rest =>
          obtain ⟨before, peeled, same⟩ := ih rest
          exact ⟨_, .either holds peeled, (select _ inside otherwise).append same⟩
  | loop tag body _ ih =>
      cases peels with
      | loop inside rest =>
          obtain ⟨before, peeled, same⟩ := ih rest
          exact ⟨_, .loop inside peeled, .loop tag _ same⟩
      | untouched rest =>
          obtain ⟨before, peeled, same⟩ := ih rest
          exact ⟨_, .untouched peeled, .loop tag body same⟩

theorem loops_eq {markup filled : Markup} (fills : Filled markup filled) :
    filled.loops = markup.loops := by
  induction fills with
  | done => rfl
  | text _ _ ih => exact ih
  | kept _ _ ih => exact ih
  | shown _ _ _ ih => exact ih
  | guarded _ _ _ insideIH ih => rw [loops, loops, insideIH, ih]
  | either _ _ _ _ insideIH otherwiseIH ih => rw [loops, loops, insideIH, otherwiseIH, ih]
  | loop _ _ _ ih => rw [loops, loops, ih]

variable (good : InlineTag → Prop) {markup filled : Markup}

theorem addsOnly_tags (fills : Filled markup filled) :
    AddsOnly good markup.tags filled.tags := by
  induction fills with
  | done => exact .nil
  | text _ _ ih => exact ih
  | kept tag _ ih => exact ih.cons tag
  | shown tag _ _ ih => exact ih.skip tag
  | guarded _ _ _ insideIH ih => exact insideIH.append ih
  | either _ _ _ _ insideIH otherwiseIH ih => exact (insideIH.append otherwiseIH).append ih
  | loop _ _ _ ih => exact ih

theorem addsOnly_keptTags (literalFallback : Bool) (context : Entries)
    (fills : Filled markup filled) :
    AddsOnly good (markup.keptTags literalFallback context)
      (filled.keptTags literalFallback context) := by
  induction fills with
  | done => exact .nil
  | text _ _ ih => exact ih
  | kept tag _ ih => exact ih.cons tag
  | shown tag _ _ ih => exact ih.skip tag
  | guarded tag inside _ _ ih => exact ((inside.addsOnly_tags good).chosen .nil _).append ih
  | either tag inside otherwise _ _ _ ih =>
      exact ((inside.addsOnly_tags good).chosen (otherwise.addsOnly_tags good) _).append ih
  | loop _ _ _ ih => exact ih

end Filled

theorem gives_fill {interpolation : Interpolation} (keeps : interpolation.KeepsBraceFree)
    {context : Entries} (contextFree : context.IsBraceFree) (tag : InlineTag)
    (familiar : tag.IsFamiliar interpolation) {later : Except Fault Text} {markup : Markup}
    (rest : Gives (Filled markup) later) :
    Gives (Filled (inline tag markup))
      (together (interpolation.fill context (tagged tag.interior)
        (expression tag.interior)).outcome later) := by
  have filled := Interpolation.yields_fill keeps contextFree (tagged tag.interior)
    tag.isBraceFree_expression familiar
  refine Yields.bind filled ?_
  rintro text (rfl | inert)
  · exact rest.inline tag fun _ filled => .kept tag filled
  · exact rest.text ⟨text, inert⟩ fun _ filled => .shown tag ⟨text, inert⟩ filled

/-- The pass over the expressions of markup without loops puts texts in the
place of tags, if the filters and helpers that they name are registered. -/
theorem exists_fills {interpolation : Interpolation} (keeps : interpolation.KeepsBraceFree)
    {context : Entries} (contextFree : context.IsBraceFree) {markup : Markup}
    (loopFree : markup.loops = [])
    (familiar : ∀ tag ∈ markup.tags, tag.IsFamiliar interpolation) :
    ∃ result, interpolation.Fills context markup.print result ∧ Gives (Filled markup) result := by
  have endif := Template.fills_reserved interpolation context endifWord_isBraceFree (by decide)
    (by decide)
  have separator := Template.fills_reserved interpolation context elseWord_isBraceFree (by decide)
    (by decide)
  induction markup with
  | done => exact ⟨.ok [], Interpolation.Fills.nil, Gives.ok done .done⟩
  | text content next ih =>
      obtain ⟨result, fills, gives⟩ := ih loopFree familiar
      exact ⟨_, Interpolation.Fills.append (Interpolation.Fills.inert content.inert) fills,
        gives.text content fun _ rest => .text content rest⟩
  | inline tag next ih =>
      rw [tags, List.forall_mem_cons] at familiar
      obtain ⟨result, fills, gives⟩ := ih loopFree familiar.2
      have here := Interpolation.Fills.tagged interpolation context tag.free tag.nonempty
      exact ⟨_, Interpolation.Fills.append here fills,
        gives_fill keeps contextFree tag familiar.1 gives⟩
  | guarded tag body next bodyIH nextIH =>
      rw [loops, List.append_eq_nil_iff] at loopFree
      rw [tags, List.forall_mem_append] at familiar
      obtain ⟨inner, insideFills, insideGives⟩ := bodyIH loopFree.1 familiar.1
      obtain ⟨result, fills, gives⟩ := nextIH loopFree.2 familiar.2
      have opener := Template.fills_reserved interpolation context tag.free tag.interior_ne_nil
        tag.isReserved
      exact ⟨_, Interpolation.Fills.append
          (Interpolation.Fills.append (Interpolation.Fills.append opener insideFills) endif) fills,
        insideGives.guarded tag gives fun _ _ inside rest => .guarded tag inside rest⟩
  | either tag body alternative next bodyIH alternativeIH nextIH =>
      rw [loops, List.append_eq_nil_iff, List.append_eq_nil_iff] at loopFree
      rw [tags, List.forall_mem_append, List.forall_mem_append] at familiar
      obtain ⟨inner, insideFills, insideGives⟩ := bodyIH loopFree.1.1 familiar.1.1
      obtain ⟨other, otherFills, otherGives⟩ := alternativeIH loopFree.1.2 familiar.1.2
      obtain ⟨result, fills, gives⟩ := nextIH loopFree.2 familiar.2
      have opener := Template.fills_reserved interpolation context tag.free tag.interior_ne_nil
        tag.isReserved
      have first := Interpolation.Fills.append (Interpolation.Fills.append opener insideFills)
        separator
      exact ⟨_, Interpolation.Fills.append
          (Interpolation.Fills.append (Interpolation.Fills.append first otherFills) endif) fills,
        insideGives.either tag otherGives gives
          fun _ _ _ inside otherwise rest => .either tag inside otherwise rest⟩
  | loop tag body next _ _ => exact absurd loopFree (by simp [loops])

theorem gives_interpolationPass {interpolation : Interpolation}
    (keeps : interpolation.KeepsBraceFree) {context : Entries}
    (contextFree : context.IsBraceFree) {markup : Markup} (loopFree : markup.loops = [])
    (familiar : ∀ tag ∈ markup.tags, tag.IsFamiliar interpolation) :
    Gives (Filled markup) (interpolation.pass context markup.print).outcome := by
  obtain ⟨result, fills, gives⟩ := exists_fills keeps contextFree loopFree familiar
  rw [fills.whole]
  exact gives

end Markup

namespace Tag

theorem eq_nil_of_blank_append {before text : Text}
    (blank : ∀ char ∈ before, Text.isBlank char = true)
    (first : ∀ char ∈ (before ++ text).head?, Text.isBlank char = false) : before = [] := by
  cases before with
  | nil => rfl
  | cons char before =>
      have solid := first char (by simp)
      rw [blank char List.mem_cons_self] at solid
      exact absurd solid (by decide)

theorem Pads.eq_of_solid {name interior : Text} (pads : Pads name interior)
    (first : interior.head?.all (!Text.isBlank ·) = true)
    (last : interior.getLast?.all (!Text.isBlank ·) = true) : name = interior := by
  obtain ⟨before, after, rfl, blankBefore, blankAfter⟩ := pads
  simp only [Option.all_eq_true, Bool.not_eq_true', ← Option.mem_def] at first last
  rw [List.append_assoc] at first
  have noBefore := eq_nil_of_blank_append blankBefore first
  have noAfter : after.reverse = [] := by
    apply eq_nil_of_blank_append
    · simpa using blankAfter
    · rw [← List.reverse_append, List.head?_reverse]
      exact last
  rw [List.reverse_eq_nil_iff] at noAfter
  simp [noBefore, noAfter]

/-- A name that stands inside the tag of an `if` block, but for blank characters
around it, reads like such a tag. -/
theorem ifMark?_of_pads {name interior : Text} {mark : Mark}
    (marked : ifMark? interior = some mark) (solid : mark ≠ .opens [])
    (pads : Pads name interior) : ifMark? name ≠ none := by
  rcases ifMark?_cases marked with rfl | rfl | ⟨blank, rest, rfl, isBlank, rfl⟩
  · rw [pads.eq_of_solid (by decide) (by decide)]
    decide
  · rw [pads.eq_of_solid (by decide) (by decide)]
    decide
  · obtain ⟨before, after, whole, blankBefore, blankAfter⟩ := pads
    rw [List.append_assoc] at whole
    have noBefore : before = [] := by
      apply eq_nil_of_blank_append blankBefore
      rw [← whole]
      intro char first
      cases first
      decide
    rw [noBefore, List.nil_append] at whole
    -- The name goes past the first three characters, or the header would be blank.
    match name, whole with
    | [], whole =>
        have tail : 'i' :: 'f' :: blank :: rest = after := whole
        have first := blankAfter 'i' (tail ▸ List.mem_cons_self)
        exact absurd first (by decide)
    | [_], whole =>
        injection whole with _ whole
        have tail : 'f' :: blank :: rest = after := whole
        have second := blankAfter 'f' (tail ▸ List.mem_cons_self)
        exact absurd second (by decide)
    | [_, _], whole =>
        injection whole with _ whole
        injection whole with _ whole
        have tail : blank :: rest = after := whole
        have nothing : Text.trimLeft rest = [] := by
          rw [Text.trimLeft, List.dropWhile_eq_nil_iff]
          intro char member
          exact blankAfter char (tail ▸ List.mem_cons_of_mem blank member)
        exact absurd (congrArg Mark.opens nothing) solid
    | first :: second :: third :: more, whole =>
        injection whole with one whole
        injection whole with two whole
        injection whole with three _
        subst one two three
        simp [ifMark?, endifWord, elseWord, ifWord, Text.after?, isBlank]

end Tag

namespace Loop

/-- A name with what is filled in for it, by which no block tag and no new tag
comes about. -/
structure IsHarmless (binding : Text × Text) : Prop where
  free : Text.isBraceFree binding.1 = true
  unmarked : ifMark? binding.1 = none
  inert : Text.isInert binding.2 = true

theorem bind_marked_append {bindings : List (Text × Text)}
    (harmless : ∀ binding ∈ bindings, IsHarmless binding) {interior : Text}
    (free : Text.isBraceFree interior = true) {mark : Mark}
    (marked : ifMark? interior = some mark) (solid : mark ≠ .opens []) (rest : Text) :
    bind bindings (tagged interior ++ rest) = tagged interior ++ bind bindings rest := by
  induction bindings generalizing rest with
  | nil => rfl
  | cons binding bindings ih =>
      have here := harmless binding List.mem_cons_self
      have apart : ¬ Pads binding.1 interior := by
        intro pads
        exact ifMark?_of_pads marked solid pads here.unmarked
      rw [bind_cons, bind_cons, replaceAll_apart_append here.free free apart,
        ih fun other member => harmless other (List.mem_cons_of_mem binding member)]

end Loop

namespace Markup

theorem exists_mapsGaps {bindings : List (Text × Text)}
    (harmless : ∀ binding ∈ bindings, Loop.IsHarmless binding) (markup : Markup) :
    ∃ filled, Filled markup filled ∧
      MapsGaps BlockTags.ofForeach.marks (Loop.bind bindings) markup.print filled.print := by
  have closer := MapsGaps.tagged BlockTags.ofForeach endifWord_isBraceFree endifWord_silent
    (Loop.bind_marked_append harmless endifWord_isBraceFree endifWord_closes (by decide))
  have separator := MapsGaps.tagged BlockTags.ofForeach elseWord_isBraceFree elseWord_silent
    (Loop.bind_marked_append harmless elseWord_isBraceFree elseWord_separates (by decide))
  have opener : ∀ tag : IfTag, MapsGaps BlockTags.ofForeach.marks (Loop.bind bindings)
      (tagged tag.interior) (tagged tag.interior) := by
    intro tag
    have solid : Mark.opens tag.header ≠ .opens [] := by simpa using tag.conditional
    exact MapsGaps.tagged BlockTags.ofForeach tag.free tag.foreachMark?_eq_none
      (Loop.bind_marked_append harmless tag.free tag.opens solid)
  induction markup with
  | done => exact ⟨done, .done, MapsGaps.nil⟩
  | text content next ih =>
      obtain ⟨later, filled, maps⟩ := ih
      exact ⟨text content later, .text content filled,
        MapsGaps.append (MapsGaps.inert content.inert
          (Loop.bind_inert_append bindings content.inert)) maps⟩
  | inline tag next ih =>
      obtain ⟨later, filled, maps⟩ := ih
      obtain ⟨result, fine, bound⟩ := Loop.exists_bind_tagged
        (fun binding member => ⟨(harmless binding member).free, (harmless binding member).inert⟩)
        tag.free
      have here := MapsGaps.tagged BlockTags.ofForeach tag.free tag.outsideForeach bound
      rcases fine with rfl | inert
      · exact ⟨inline tag later, .kept tag filled, MapsGaps.append here maps⟩
      · exact ⟨text ⟨result, inert⟩ later, .shown tag ⟨result, inert⟩ filled,
          MapsGaps.append here maps⟩
  | guarded tag body next bodyIH nextIH =>
      obtain ⟨inner, inside, insideMaps⟩ := bodyIH
      obtain ⟨later, filled, maps⟩ := nextIH
      exact ⟨guarded tag inner later, .guarded tag inside filled,
        MapsGaps.append (MapsGaps.append (MapsGaps.append (opener tag) insideMaps) closer) maps⟩
  | either tag body alternative next bodyIH alternativeIH nextIH =>
      obtain ⟨inner, inside, insideMaps⟩ := bodyIH
      obtain ⟨other, otherwise, otherMaps⟩ := alternativeIH
      obtain ⟨later, filled, maps⟩ := nextIH
      have first := MapsGaps.append (MapsGaps.append (opener tag) insideMaps) separator
      exact ⟨either tag inner other later, .either tag inside otherwise filled,
        MapsGaps.append (MapsGaps.append (MapsGaps.append first otherMaps) closer) maps⟩
  | loop tag body next _ nextIH =>
      obtain ⟨later, filled, maps⟩ := nextIH
      refine ⟨loop tag body later, .loop tag body filled, ?_⟩
      rw [print_loop, print_loop]
      exact MapsGaps.append
        (MapsGaps.block (Loop.bind_nil_text bindings) tag.frame (balanced_foreachMarks body)) maps

/-- Filling in bound names outside the loops of markup puts texts in the place
of tags. -/
theorem exists_bindOutside {bindings : List (Text × Text)}
    (harmless : ∀ binding ∈ bindings, Loop.IsHarmless binding) (markup : Markup) :
    ∃ filled, Filled markup filled ∧ Loop.bindOutside bindings markup.print = filled.print := by
  obtain ⟨filled, fills, maps⟩ := exists_mapsGaps harmless markup
  exact ⟨filled, fills, maps.whole (Loop.bind_nil_text bindings)⟩

section Flattening

variable {good : InlineTag → Prop}

/-- Whether markup has no loops and only tags as they should be. -/
structure IsSettled (good : InlineTag → Prop) (markup : Markup) : Prop where
  loopFree : markup.loops = []
  tags : ∀ tag ∈ markup.tags, good tag

theorem IsSettled.append {first later : Markup} (left : IsSettled good first)
    (right : IsSettled good later) : IsSettled good (first ++ later) where
  loopFree := by rw [loops_append, left.loopFree, right.loopFree, List.append_nil]
  tags := by
    rw [tags_append, List.forall_mem_append]
    exact ⟨left.tags, right.tags⟩

/-- One markup is another one in which each loop has become markup without
loops whose tags are as they should be. -/
structure Flattens (literalFallback : Bool) (good : InlineTag → Prop) (markup left : Markup) :
    Prop where
  loopFree : left.loops = []
  tags : AddsOnly good markup.tags left.tags
  keptTags : ∀ context, AddsOnly good (markup.keptTags literalFallback context)
    (left.keptTags literalFallback context)

namespace Flattens

variable {literalFallback : Bool} {body inner alternative other next later : Markup}

theorem done : Flattens literalFallback good done done :=
  ⟨rfl, .nil, fun _ => .nil⟩

theorem text (content : Text.Inert) (rest : Flattens literalFallback good next later) :
    Flattens literalFallback good (.text content next) (.text content later) :=
  ⟨rest.loopFree, rest.tags, rest.keptTags⟩

theorem inline (tag : InlineTag) (rest : Flattens literalFallback good next later) :
    Flattens literalFallback good (.inline tag next) (.inline tag later) :=
  ⟨rest.loopFree, rest.tags.cons tag, fun context => (rest.keptTags context).cons tag⟩

theorem guarded (tag : IfTag) (inside : Flattens literalFallback good body inner)
    (rest : Flattens literalFallback good next later) :
    Flattens literalFallback good (.guarded tag body next) (.guarded tag inner later) where
  loopFree := by rw [loops, inside.loopFree, rest.loopFree, List.append_nil]
  tags := inside.tags.append rest.tags
  keptTags context := (inside.tags.chosen .nil _).append (rest.keptTags context)

theorem either (tag : IfTag) (inside : Flattens literalFallback good body inner)
    (otherwise : Flattens literalFallback good alternative other)
    (rest : Flattens literalFallback good next later) :
    Flattens literalFallback good (.either tag body alternative next)
      (.either tag inner other later) where
  loopFree := by
    rw [loops, inside.loopFree, otherwise.loopFree, rest.loopFree, List.append_nil,
      List.append_nil]
  tags := (inside.tags.append otherwise.tags).append rest.tags
  keptTags context := (inside.tags.chosen otherwise.tags _).append (rest.keptTags context)

theorem loop (tag : LoopTag) (body : Markup) {expanded : Markup}
    (settled : IsSettled good expanded) (rest : Flattens literalFallback good next later) :
    Flattens literalFallback good (.loop tag body next) (expanded ++ later) where
  loopFree := by rw [loops_append, settled.loopFree, rest.loopFree, List.append_nil]
  tags := by
    rw [tags_append]
    exact (AddsOnly.of_forall settled.tags).append rest.tags
  keptTags context := by
    have kept := addsOnly_keptTags good literalFallback context expanded
    rw [keptTags_append]
    exact (AddsOnly.of_forall (kept.forall_mem settled.tags)).append (rest.keptTags context)

end Flattens

variable {render : Block → Except Fault Text}

theorem exists_rewrites_flattens (literalFallback : Bool) {markup : Markup}
    (expands : ∀ loop ∈ markup.loops,
      Gives (IsSettled good) (render (loop.1.frame.block loop.2.print))) :
    ∃ result, Rewrites BlockTags.ofForeach.marks render markup.print result ∧
      Gives (Flattens literalFallback good markup) result := by
  have closer := Rewrites.tagged BlockTags.ofForeach render endifWord_isBraceFree endifWord_silent
  have separator := Rewrites.tagged BlockTags.ofForeach render elseWord_isBraceFree
    elseWord_silent
  induction markup with
  | done => exact ⟨.ok [], Rewrites.nil, Gives.ok done .done⟩
  | text content next ih =>
      obtain ⟨result, rewrites, gives⟩ := ih expands
      exact ⟨_, Rewrites.append (Rewrites.inert content.inert) rewrites,
        gives.text content fun _ rest => .text content rest⟩
  | inline tag next ih =>
      obtain ⟨result, rewrites, gives⟩ := ih expands
      have here := Rewrites.tagged BlockTags.ofForeach render tag.free tag.outsideForeach
      exact ⟨_, Rewrites.append here rewrites, gives.inline tag fun _ rest => .inline tag rest⟩
  | guarded tag body next bodyIH nextIH =>
      rw [loops, List.forall_mem_append] at expands
      obtain ⟨inner, insideRewrites, insideGives⟩ := bodyIH expands.1
      obtain ⟨result, rewrites, gives⟩ := nextIH expands.2
      have opener := Rewrites.tagged BlockTags.ofForeach render tag.free tag.foreachMark?_eq_none
      exact ⟨_, Rewrites.append
          (Rewrites.append (Rewrites.append opener insideRewrites) closer) rewrites,
        insideGives.guarded tag gives fun _ _ inside rest => .guarded tag inside rest⟩
  | either tag body alternative next bodyIH alternativeIH nextIH =>
      rw [loops, List.forall_mem_append, List.forall_mem_append] at expands
      obtain ⟨inner, insideRewrites, insideGives⟩ := bodyIH expands.1.1
      obtain ⟨other, otherRewrites, otherGives⟩ := alternativeIH expands.1.2
      obtain ⟨result, rewrites, gives⟩ := nextIH expands.2
      have opener := Rewrites.tagged BlockTags.ofForeach render tag.free tag.foreachMark?_eq_none
      have first := Rewrites.append (Rewrites.append opener insideRewrites) separator
      exact ⟨_, Rewrites.append
          (Rewrites.append (Rewrites.append first otherRewrites) closer) rewrites,
        insideGives.either tag otherGives gives
          fun _ _ _ inside otherwise rest => .either tag inside otherwise rest⟩
  | loop tag body next _ nextIH =>
      rw [loops, List.forall_mem_cons] at expands
      obtain ⟨result, rewrites, gives⟩ := nextIH expands.2
      have block := Rewrites.block render tag.frame (balanced_foreachMarks body)
      rw [print_loop]
      exact ⟨_, Rewrites.append block rewrites,
        expands.1.together gives fun _ _ settled rest => .loop tag body settled rest⟩

/-- The pass over the loops of markup leaves no loop. -/
theorem gives_replace (literalFallback : Bool) {markup : Markup}
    (expands : ∀ loop ∈ markup.loops,
      Gives (IsSettled good) (render (loop.1.frame.block loop.2.print))) :
    Gives (Flattens literalFallback good markup)
      ((Layout.ofText BlockTags.ofForeach.marks markup.print).replace render) := by
  obtain ⟨result, rewrites, gives⟩ := exists_rewrites_flattens literalFallback expands
  rw [rewrites.whole]
  exact gives

end Flattening

end Markup

end Stencil
