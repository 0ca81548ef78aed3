import Stencil.Proofs.Template.Bindings

/-!
# Passes over printed templates

Each pass over the printed form of a template is an operation on its tree: the
pass over conditions leaves of each outermost block one branch, the pass over
expressions gives each tag its text, and filling in bound names gives some of
them theirs.  None of them touches the text of another construct, and none
makes a new tag.
-/

namespace Stencil

open Tag

namespace IfHeader

def frame (header : IfHeader) : BlockTags.ofIf.Frame where
  start := header.interior
  header := Text.trimLeft header.text
  finish := endifWord
  startFree := header.interior_isBraceFree
  finishFree := by decide
  opens := header.ifMark?_interior
  closes := by decide

end IfHeader

namespace LoopHeader

def frame (header : LoopHeader) : BlockTags.ofForeach.Frame where
  start := header.interior
  header := header.text
  finish := endforeachWord
  startFree := header.interior_isBraceFree
  finishFree := by decide
  opens := header.foreachMark?_interior
  closes := by decide

end LoopHeader

theorem endifWord_isBraceFree : Text.isBraceFree endifWord = true := by decide

theorem elseWord_isBraceFree : Text.isBraceFree elseWord = true := by decide

theorem endforeachWord_isBraceFree : Text.isBraceFree endforeachWord = true := by decide

theorem endifWord_closes : BlockTags.ofIf.mark? endifWord = some .closes := by decide

theorem endforeachWord_closes : BlockTags.ofForeach.mark? endforeachWord = some .closes := by
  decide

theorem elseWord_separates : BlockTags.ofIf.mark? elseWord = some .separates := by decide

theorem endifWord_silent : BlockTags.ofForeach.mark? endifWord = none := by decide

theorem elseWord_silent : BlockTags.ofForeach.mark? elseWord = none := by decide

theorem endforeachWord_silent : BlockTags.ofIf.mark? endforeachWord = none := by decide

namespace Template

open Block

theorem print_guarded (header : IfHeader) (body next : Template) :
    (guarded header body next).print =
      (header.frame.block body.print).source ++ next.print := by
  simp [print, BlockTags.Frame.block, source, content, IfHeader.frame]

theorem print_either (header : IfHeader) (body alternative next : Template) :
    (either header body alternative next).print =
      (header.frame.dividedBlock body.print elseWord alternative.print).source ++ next.print := by
  simp [print, BlockTags.Frame.dividedBlock, source, content, IfHeader.frame]

theorem print_loop (header : LoopHeader) (body next : Template) :
    (loop header body next).print =
      (header.frame.block body.print).source ++ next.print := by
  simp [print, BlockTags.Frame.block, source, content, LoopHeader.frame]

theorem balanced_ifMarks (template : Template) :
    Balanced BlockTags.ofIf.marks template.print := by
  induction template with
  | done => exact BlockTags.ofIf.balanced_nil
  | text content next ih =>
      exact BlockTags.ofIf.balanced_append (BlockTags.ofIf.balanced_inert content.inert) ih
  | tag path next ih =>
      exact BlockTags.ofIf.balanced_append
        (BlockTags.ofIf.balanced_tagged path.isBraceFree path.ifMark?_eq_none) ih
  | guarded header body next bodyIH nextIH =>
      rw [print_guarded]
      exact BlockTags.ofIf.balanced_append (header.frame.balanced_block bodyIH) nextIH
  | either header body alternative next bodyIH alternativeIH nextIH =>
      rw [print_either]
      exact BlockTags.ofIf.balanced_append
        (header.frame.balanced_dividedBlock elseWord_isBraceFree elseWord_separates
          bodyIH alternativeIH) nextIH
  | loop header body next bodyIH nextIH =>
      have opener := BlockTags.ofIf.balanced_tagged header.interior_isBraceFree
        header.ifMark?_interior
      have closer := BlockTags.ofIf.balanced_tagged endforeachWord_isBraceFree
        endforeachWord_silent
      exact BlockTags.ofIf.balanced_append
        (BlockTags.ofIf.balanced_append (BlockTags.ofIf.balanced_append opener bodyIH) closer)
        nextIH

theorem balanced_foreachMarks (template : Template) :
    Balanced BlockTags.ofForeach.marks template.print := by
  have closer := BlockTags.ofForeach.balanced_tagged endifWord_isBraceFree endifWord_silent
  induction template with
  | done => exact BlockTags.ofForeach.balanced_nil
  | text content next ih =>
      exact BlockTags.ofForeach.balanced_append
        (BlockTags.ofForeach.balanced_inert content.inert) ih
  | tag path next ih =>
      exact BlockTags.ofForeach.balanced_append
        (BlockTags.ofForeach.balanced_tagged path.isBraceFree path.foreachMark?_eq_none) ih
  | guarded header body next bodyIH nextIH =>
      have opener := BlockTags.ofForeach.balanced_tagged header.interior_isBraceFree
        header.foreachMark?_interior
      exact BlockTags.ofForeach.balanced_append
        (BlockTags.ofForeach.balanced_append
          (BlockTags.ofForeach.balanced_append opener bodyIH) closer) nextIH
  | either header body alternative next bodyIH alternativeIH nextIH =>
      have opener := BlockTags.ofForeach.balanced_tagged header.interior_isBraceFree
        header.foreachMark?_interior
      have separator := BlockTags.ofForeach.balanced_tagged elseWord_isBraceFree elseWord_silent
      have first := BlockTags.ofForeach.balanced_append
        (BlockTags.ofForeach.balanced_append opener bodyIH) separator
      exact BlockTags.ofForeach.balanced_append
        (BlockTags.ofForeach.balanced_append
          (BlockTags.ofForeach.balanced_append first alternativeIH) closer) nextIH
  | loop header body next bodyIH nextIH =>
      rw [print_loop]
      exact BlockTags.ofForeach.balanced_append (header.frame.balanced_block bodyIH) nextIH

/-- One template is another one in which each outermost `if` block is the branch
that its condition selects; blocks inside loops are outermost, too. -/
inductive Peels (literalFallback : Bool) (context : Entries) : Template → Template → Prop where
  | done : Peels literalFallback context done done
  | text {next later : Template} (content : Text.Inert)
      (rest : Peels literalFallback context next later) :
      Peels literalFallback context (text content next) (text content later)
  | tag {next later : Template} (path : TagPath) (rest : Peels literalFallback context next later) :
      Peels literalFallback context (tag path next) (tag path later)
  | guarded {header : IfHeader} {body next later : Template} {selected : Bool}
      (holds : header.condition.holds literalFallback context = .ok selected)
      (rest : Peels literalFallback context next later) :
      Peels literalFallback context (guarded header body next)
        ((if selected then body else Template.done) ++ later)
  | either {header : IfHeader} {body alternative next later : Template} {selected : Bool}
      (holds : header.condition.holds literalFallback context = .ok selected)
      (rest : Peels literalFallback context next later) :
      Peels literalFallback context (either header body alternative next)
        ((if selected then body else alternative) ++ later)
  | loop {header : LoopHeader} {body inner next later : Template}
      (inside : Peels literalFallback context body inner)
      (rest : Peels literalFallback context next later) :
      Peels literalFallback context (loop header body next) (loop header inner later)

theorem branch_block (literalFallback : Bool) (context : Entries) (header : IfHeader)
    (body : Text) :
    Condition.branch literalFallback context (header.frame.block body) = do
      if ← header.condition.holds literalFallback context then return body else return [] := by
  rw [← header.condition_trimLeft]
  rfl

theorem branch_dividedBlock (literalFallback : Bool) (context : Entries) (header : IfHeader)
    (body alternative : Text) :
    Condition.branch literalFallback context
        (header.frame.dividedBlock body elseWord alternative) = do
      if ← header.condition.holds literalFallback context then return body
      else return alternative := by
  rw [← header.condition_trimLeft]
  rfl

theorem Peels.rewrites {literalFallback : Bool} {context : Entries} {template peeled : Template}
    (peels : Peels literalFallback context template peeled) :
    Rewrites BlockTags.ofIf.marks (Condition.branch literalFallback context) template.print
      (.ok peeled.print) := by
  induction peels with
  | done => exact Rewrites.nil
  | text content _ ih => exact Rewrites.append (Rewrites.inert content.inert) ih
  | tag path _ ih =>
      exact Rewrites.append
        (Rewrites.tagged BlockTags.ofIf _ path.isBraceFree path.ifMark?_eq_none) ih
  | @guarded header body next later selected holds _ ih =>
      have whole := Rewrites.append
        (Rewrites.block (Condition.branch literalFallback context) header.frame
          (balanced_ifMarks body)) ih
      rw [branch_block, holds] at whole
      rw [print_guarded, print_append]
      cases selected <;> exact whole
  | @either header body alternative next later selected holds _ ih =>
      have whole := Rewrites.append
        (Rewrites.dividedBlock (Condition.branch literalFallback context) header.frame
          elseWord_isBraceFree elseWord_separates (balanced_ifMarks body)
          (balanced_ifMarks alternative)) ih
      rw [branch_dividedBlock, holds] at whole
      rw [print_either, print_append]
      cases selected <;> exact whole
  | @loop header body inner next later _ _ insideIH restIH =>
      have opener := Rewrites.tagged BlockTags.ofIf (Condition.branch literalFallback context)
        header.interior_isBraceFree header.ifMark?_interior
      have closer := Rewrites.tagged BlockTags.ofIf (Condition.branch literalFallback context)
        endforeachWord_isBraceFree endforeachWord_silent
      exact Rewrites.append (Rewrites.append (Rewrites.append opener insideIH) closer) restIH

/-- The pass over the conditions of a printed template leaves the branches that
the conditions select. -/
theorem Peels.conditionPass {literalFallback : Bool} {context : Entries}
    {template peeled : Template} (peels : Peels literalFallback context template peeled) :
    Condition.pass literalFallback context template.print = .ok peeled.print :=
  peels.rewrites.whole

/-- The template in which each tag has the text of its path, or, if the path
stands for nothing, is left or left out. -/
def fill (preserveUndefined : Bool) (context : Entries) : Template → Template
  | done => done
  | text content next => text content (fill preserveUndefined context next)
  | tag path next =>
      match context.shown? path.text with
      | some content => text content (fill preserveUndefined context next)
      | none =>
          if preserveUndefined then tag path (fill preserveUndefined context next)
          else fill preserveUndefined context next
  | guarded header body next =>
      guarded header (fill preserveUndefined context body) (fill preserveUndefined context next)
  | either header body alternative next =>
      either header (fill preserveUndefined context body)
        (fill preserveUndefined context alternative) (fill preserveUndefined context next)
  | loop header body next =>
      loop header (fill preserveUndefined context body) (fill preserveUndefined context next)

theorem interior_ne_nil (header : IfHeader) : header.interior ≠ [] := by
  simp [IfHeader.interior]

theorem loopInterior_ne_nil (header : LoopHeader) : header.interior ≠ [] := by
  simp [LoopHeader.interior, foreachWord]

theorem outcome_fill (interpolation : Interpolation) {context : Entries}
    (plain : context.IsPlain) (path : TagPath) :
    (interpolation.fill context (tagged path.text) (expression path.text)).outcome =
      .ok (match context.shown? path.text with
        | some content => content.text
        | none => if interpolation.preserveUndefined then tagged path.text else []) := by
  rw [path.expression_eq, Interpolation.fill, path.isReserved_eq_false]
  simp only [Bool.false_eq_true, if_false, path.split_eq, path.call?_eq_none]
  rcases Entries.isPlain_resolve plain path.text with undefined | plainValue
  · rw [Entries.shown?, undefined]
    show (interpolation.fillUndefined (tagged path.text) path.text).outcome = _
    rw [Interpolation.fillUndefined]
    cases interpolation.showWarnings <;> rfl
  · rw [Entries.shown?_of_isPlain plainValue]
    have finished : (interpolation.finish [] (Entries.resolve path.text context)).outcome =
        .ok (Entries.resolve path.text context).shown.text := by
      rw [Interpolation.finish, Filter.pipeline, Logged.outcome_bind]
      exact Value.display_eq_shown plainValue
    cases value : Entries.resolve path.text context with
    | undefined =>
        rw [value] at plainValue
        simp [Value.isPlain] at plainValue
    | _ =>
        rw [value] at finished
        exact finished

theorem fills_reserved (interpolation : Interpolation) (context : Entries) {interior : Text}
    (free : Text.isBraceFree interior = true) (nonempty : interior ≠ [])
    (reserved : Interpolation.isReserved (expression interior) = true) :
    interpolation.Fills context (tagged interior) (.ok (tagged interior)) := by
  have whole := Interpolation.Fills.tagged interpolation context free nonempty
  rw [Interpolation.fill, reserved] at whole
  exact whole

theorem fills_print (interpolation : Interpolation) {context : Entries}
    (plain : context.IsPlain) (template : Template) :
    interpolation.Fills context template.print
      (.ok (template.fill interpolation.preserveUndefined context).print) := by
  have endif := fills_reserved interpolation context endifWord_isBraceFree (by decide) (by decide)
  have separator := fills_reserved interpolation context elseWord_isBraceFree (by decide)
    (by decide)
  have endforeach := fills_reserved interpolation context endforeachWord_isBraceFree (by decide)
    (by decide)
  induction template with
  | done => exact Interpolation.Fills.nil
  | text content next ih =>
      exact Interpolation.Fills.append (Interpolation.Fills.inert content.inert) ih
  | tag path next ih =>
      have here := Interpolation.Fills.tagged interpolation context path.isBraceFree
        path.wellFormed.1
      rw [outcome_fill interpolation plain path] at here
      have whole := Interpolation.Fills.append here ih
      rw [fill]
      cases shown : context.shown? path.text with
      | some content =>
          rw [shown] at whole
          exact whole
      | none =>
          rw [shown] at whole
          cases preserve : interpolation.preserveUndefined with
          | true =>
              rw [preserve] at whole
              exact whole
          | false =>
              rw [preserve] at whole
              exact whole
  | guarded header body next bodyIH nextIH =>
      have opener := fills_reserved interpolation context header.interior_isBraceFree
        (interior_ne_nil header) header.isReserved_interior
      exact Interpolation.Fills.append
        (Interpolation.Fills.append (Interpolation.Fills.append opener bodyIH) endif) nextIH
  | either header body alternative next bodyIH alternativeIH nextIH =>
      have opener := fills_reserved interpolation context header.interior_isBraceFree
        (interior_ne_nil header) header.isReserved_interior
      have first := Interpolation.Fills.append
        (Interpolation.Fills.append opener bodyIH) separator
      exact Interpolation.Fills.append
        (Interpolation.Fills.append (Interpolation.Fills.append first alternativeIH) endif) nextIH
  | loop header body next bodyIH nextIH =>
      have opener := fills_reserved interpolation context header.interior_isBraceFree
        (loopInterior_ne_nil header) header.isReserved_interior
      exact Interpolation.Fills.append
        (Interpolation.Fills.append (Interpolation.Fills.append opener bodyIH) endforeach) nextIH

/-- The pass over the expressions of a printed template is the one over its
tree. -/
theorem outcome_pass_print (interpolation : Interpolation) {context : Entries}
    (plain : context.IsPlain) (template : Template) :
    (interpolation.pass context template.print).outcome =
      .ok (template.fill interpolation.preserveUndefined context).print :=
  (fills_print interpolation plain template).whole

/-- The template in which the tags of bound names have their texts, but for
those inside loops. -/
def bind (bindings : Bindings) : Template → Template
  | done => done
  | text content next => text content (bind bindings next)
  | tag path next =>
      match Bindings.bound? path.text bindings with
      | some content => text content (bind bindings next)
      | none => tag path (bind bindings next)
  | guarded header body next => guarded header (bind bindings body) (bind bindings next)
  | either header body alternative next =>
      either header (bind bindings body) (bind bindings alternative) (bind bindings next)
  | loop header body next => loop header body (bind bindings next)

theorem trim_interior_ne (header : IfHeader) (name : TagPath) :
    Text.trim header.interior ≠ name.text := by
  intro same
  have member : ' ' ∈ name.text := by
    rw [← same, header.trim_interior]
    simp
  exact name.not_mem_of_separator (by decide) member

theorem trim_word_ne {word : Text} (reserved : word ∈ Interpolation.blockWords)
    (trimmed : Text.trim word = word) (name : TagPath) : Text.trim word ≠ name.text := by
  rw [trimmed]
  exact Ne.symm (name.ne_word reserved)

theorem mapsGaps_bind (bindings : Bindings) (template : Template) :
    MapsGaps BlockTags.ofForeach.marks (Loop.bind bindings.raw) template.print
      (template.bind bindings).print := by
  have closer := MapsGaps.tagged BlockTags.ofForeach endifWord_isBraceFree endifWord_silent
    (Loop.bind_other_append bindings endifWord_isBraceFree
      (trim_word_ne (by decide) (by decide)))
  have separator := MapsGaps.tagged BlockTags.ofForeach elseWord_isBraceFree elseWord_silent
    (Loop.bind_other_append bindings elseWord_isBraceFree
      (trim_word_ne (by decide) (by decide)))
  induction template with
  | done => exact MapsGaps.nil
  | text content next ih =>
      exact MapsGaps.append
        (MapsGaps.inert content.inert (Loop.bind_inert_append (Bindings.raw bindings) content.inert)) ih
  | tag path next ih =>
      have here := MapsGaps.tagged BlockTags.ofForeach path.isBraceFree path.foreachMark?_eq_none
        (Loop.bind_path_append bindings path)
      have whole := MapsGaps.append here ih
      rw [Loop.filled] at whole
      rw [bind]
      cases bound : Bindings.bound? path.text bindings with
      | some content =>
          rw [bound] at whole
          exact whole
      | none =>
          rw [bound] at whole
          exact whole
  | guarded header body next bodyIH nextIH =>
      have opener := MapsGaps.tagged BlockTags.ofForeach header.interior_isBraceFree
        header.foreachMark?_interior
        (Loop.bind_other_append bindings header.interior_isBraceFree (trim_interior_ne header))
      exact MapsGaps.append (MapsGaps.append (MapsGaps.append opener bodyIH) closer) nextIH
  | either header body alternative next bodyIH alternativeIH nextIH =>
      have opener := MapsGaps.tagged BlockTags.ofForeach header.interior_isBraceFree
        header.foreachMark?_interior
        (Loop.bind_other_append bindings header.interior_isBraceFree (trim_interior_ne header))
      have first := MapsGaps.append (MapsGaps.append opener bodyIH) separator
      exact MapsGaps.append (MapsGaps.append (MapsGaps.append first alternativeIH) closer) nextIH
  | loop header body next _ nextIH =>
      rw [print_loop, bind, print_loop]
      exact MapsGaps.append
        (MapsGaps.block (Loop.bind_nil_text bindings.raw) header.frame
          (balanced_foreachMarks body)) nextIH

/-- Filling in bound names outside the loops of a printed template is filling
them in in its tree. -/
theorem bindOutside_print (bindings : Bindings) (template : Template) :
    Loop.bindOutside bindings.raw template.print = (template.bind bindings).print :=
  (mapsGaps_bind bindings template).whole (Loop.bind_nil_text bindings.raw)

end Template

end Stencil
