import Stencil.Proofs.Template.Rendered

/-!
# The compositional meaning of templates

The meaning of a template in a context is put together from the meanings of its
parts: a tag means the text of its value, a block the branch that its condition
selects in the same context, and a loop its body in the context of each entry,
one after the other.  A render gives the meaning, unless a block stands inside
two loops or more blocks are nested than there are passes.
-/

namespace Stencil

def Value.displayed (value : Value) : Text :=
  match value.display with
  | .ok content => content
  | .error _ => []

namespace Template

/-- What a template means in a context.  A path that stands for nothing means
no text. -/
def meaning (literalFallback : Bool) (context : Entries) : Template → Text
  | done => []
  | text content next => content.text ++ meaning literalFallback context next
  | tag path next =>
      (Entries.resolve path.text context).displayed ++ meaning literalFallback context next
  | guarded header body next =>
      (if header.selects literalFallback context then meaning literalFallback context body
        else [])
        ++ meaning literalFallback context next
  | either header body alternative next =>
      (if header.selects literalFallback context then meaning literalFallback context body
        else meaning literalFallback context alternative)
        ++ meaning literalFallback context next
  | loop header body next =>
      ((header.entries context).flatMap fun entry =>
          meaning literalFallback (header.scope context entry) body)
        ++ meaning literalFallback context next

/-- Whether no condition fails in the context in which it stands. -/
def Quiet (literalFallback : Bool) (context : Entries) : Template → Prop
  | done => True
  | text _ next | tag _ next => Quiet literalFallback context next
  | guarded header body next =>
      header.Decided literalFallback context ∧ Quiet literalFallback context body ∧
        Quiet literalFallback context next
  | either header body alternative next =>
      header.Decided literalFallback context ∧ Quiet literalFallback context body ∧
        Quiet literalFallback context alternative ∧ Quiet literalFallback context next
  | loop header body next =>
      (∀ entry ∈ header.entries context,
        Quiet literalFallback (header.scope context entry) body) ∧
        Quiet literalFallback context next

def hasNoIf : Template → Bool
  | done => true
  | text _ next | tag _ next => hasNoIf next
  | guarded .. | either .. => false
  | loop _ body next => hasNoIf body && hasNoIf next

/-- How deep `if` blocks are nested outside the loops of a template. -/
def ifDepth : Template → Nat
  | done => 0
  | text _ next | tag _ next => ifDepth next
  | guarded _ body next => max (ifDepth body + 1) (ifDepth next)
  | either _ body alternative next =>
      max (max (ifDepth body) (ifDepth alternative) + 1) (ifDepth next)
  | loop _ _ next => ifDepth next

/-- Whether no `if` block stands inside two loops, and the blocks in the body of
a loop are nested no deeper than there are passes for them.  The template may
itself be in a loop. -/
def isModest (loopPasses : Nat) : Bool → Template → Bool
  | _, done => true
  | inLoop, text _ next | inLoop, tag _ next => isModest loopPasses inLoop next
  | inLoop, guarded _ body next =>
      isModest loopPasses inLoop body && isModest loopPasses inLoop next
  | inLoop, either _ body alternative next =>
      isModest loopPasses inLoop body && isModest loopPasses inLoop alternative
        && isModest loopPasses inLoop next
  | inLoop, loop _ body next =>
      (if inLoop then hasNoIf body
        else decide (ifDepth body ≤ loopPasses) && isModest loopPasses true body)
        && isModest loopPasses inLoop next

theorem calm_nil (literalFallback : Bool) (template : Template) :
    Calm literalFallback [] template := by
  induction template with
  | done => trivial
  | text content next ih => exact ih
  | tag path next ih => exact ih
  | guarded header body next _ ih => exact ⟨trivial, ih⟩
  | either header body alternative next _ _ ih => exact ⟨trivial, ih⟩
  | loop header body next bodyIH nextIH => exact ⟨bodyIH, nextIH⟩

theorem calm_of_hasNoIf (literalFallback : Bool) (pending : List Entries) {template : Template}
    (noIf : template.hasNoIf = true) : Calm literalFallback pending template := by
  induction template with
  | done => trivial
  | text content next ih => exact ih noIf
  | tag path next ih => exact ih noIf
  | guarded header body next _ _ => exact absurd noIf (by simp [hasNoIf])
  | either header body alternative next _ _ _ => exact absurd noIf (by simp [hasNoIf])
  | loop header body next bodyIH nextIH =>
      rw [hasNoIf, Bool.and_eq_true] at noIf
      exact ⟨bodyIH noIf.1, nextIH noIf.2⟩

theorem calm_of_quiet {literalFallback : Bool} {loopPasses : Nat} {scope : Entries}
    {template : Template} (modest : template.isModest loopPasses true = true)
    (quiet : template.Quiet literalFallback scope) : Calm literalFallback [scope] template := by
  induction template with
  | done => trivial
  | text content next ih => exact ih modest quiet
  | tag path next ih => exact ih modest quiet
  | guarded header body next _ ih =>
      rw [isModest, Bool.and_eq_true] at modest
      exact ⟨⟨quiet.1, calm_nil literalFallback body⟩, ih modest.2 quiet.2.2⟩
  | either header body alternative next _ _ ih =>
      rw [isModest, Bool.and_eq_true] at modest
      exact ⟨⟨quiet.1, calm_nil literalFallback body, calm_nil literalFallback alternative⟩,
        ih modest.2 quiet.2.2.2⟩
  | loop header body next _ ih =>
      rw [isModest, Bool.and_eq_true, if_pos rfl] at modest
      exact ⟨calm_of_hasNoIf literalFallback [scope] modest.1, ih modest.2 quiet.2⟩

section Result

variable {setting : Loop.Setting} (drops : setting.interpolation.preserveUndefined = false)

include drops

theorem shownTag_eq_displayed {standing : Standing} (plain : standing.context.IsPlain)
    (path : TagPath) : shownTag setting standing path =
      (Entries.resolve path.text standing.context).displayed := by
  rcases Entries.isPlain_resolve plain path.text with undefined | plainValue
  · have nothing : standing.context.shown? path.text = none := by rw [Entries.shown?, undefined]
    rw [shownTag, nothing, drops, undefined, Value.displayed, Value.display]
    rfl
  · rw [shownTag, Entries.shown?_of_isPlain plainValue, Value.displayed,
      Value.display_eq_shown plainValue]

/-- Without blocks a template comes to its meaning wherever it stands. -/
theorem result_of_hasNoIf {standing : Standing} (plain : standing.context.IsPlain)
    {template : Template} (noIf : template.hasNoIf = true) :
    Sound setting standing template ∧ result setting standing template =
      template.meaning setting.literalFallback standing.context := by
  induction template generalizing standing with
  | done => exact ⟨trivial, rfl⟩
  | text content next ih =>
      obtain ⟨sound, same⟩ := ih plain noIf
      exact ⟨sound, by rw [result, meaning, same]⟩
  | tag path next ih =>
      obtain ⟨sound, same⟩ := ih plain noIf
      refine ⟨sound, ?_⟩
      rw [result, meaning, same, shownTag_eq_displayed drops plain]
  | guarded header body next _ _ => exact absurd noIf (by simp [hasNoIf])
  | either header body alternative next _ _ _ => exact absurd noIf (by simp [hasNoIf])
  | loop header body next bodyIH nextIH =>
      rw [hasNoIf, Bool.and_eq_true] at noIf
      obtain ⟨soundNext, sameNext⟩ := nextIH plain noIf.2
      have each : ∀ entry ∈ header.entries standing.context,
          Sound setting (standing.enter setting.passes (header.scope standing.context entry))
              body ∧
            result setting
                (standing.enter setting.passes (header.scope standing.context entry)) body =
              body.meaning setting.literalFallback (header.scope standing.context entry) := by
        intro entry member
        have plainScope : (standing.enter setting.passes
            (header.scope standing.context entry)).context.IsPlain :=
          header.isPlain_scope plain member
        exact bodyIH plainScope noIf.1
      refine ⟨⟨?_, soundNext⟩, ?_⟩
      · intro entry member
        exact ⟨calm_of_hasNoIf _ _ noIf.1, (each entry member).1⟩
      · rw [result, meaning, sameNext]
        congr 1
        exact List.flatMap_congr fun entry member => (each entry member).2

/-- Where enough passes with the own context come first, a template comes to its
meaning. -/
theorem result_of_isModest (passes : 0 < setting.passes) {inLoop : Bool} {standing : Standing}
    {count : Nat} {rest : List Entries} (plain : standing.context.IsPlain)
    (queue : standing.queue = List.replicate count standing.context ++ rest)
    (started : inLoop = false → standing.pending = []) {template : Template}
    (modest : template.isModest setting.passes inLoop = true) (shallow : template.ifDepth ≤ count)
    (quiet : template.Quiet setting.literalFallback standing.context) :
    Sound setting standing template ∧ result setting standing template =
      template.meaning setting.literalFallback standing.context := by
  induction template generalizing inLoop standing count rest with
  | done => exact ⟨trivial, rfl⟩
  | text content next ih =>
      obtain ⟨sound, same⟩ := ih plain queue started modest shallow quiet
      exact ⟨sound, by rw [result, meaning, same]⟩
  | tag path next ih =>
      obtain ⟨sound, same⟩ := ih plain queue started modest shallow quiet
      refine ⟨sound, ?_⟩
      rw [result, meaning, same, shownTag_eq_displayed drops plain]
  | guarded header body next bodyIH nextIH =>
      rw [isModest, Bool.and_eq_true] at modest
      rw [ifDepth] at shallow
      obtain ⟨decided, quietBody, quietNext⟩ := quiet
      obtain ⟨soundNext, sameNext⟩ := nextIH plain queue started modest.2 (by omega) quietNext
      obtain ⟨fewer, counted⟩ : ∃ fewer, count = fewer + 1 := ⟨count - 1, by omega⟩
      rw [counted] at queue
      obtain ⟨after, due, afterQueue, afterContext, _⟩ := Standing.next?_eq_some queue
      rw [← afterContext] at plain quietBody afterQueue
      obtain ⟨soundBody, sameBody⟩ := bodyIH plain afterQueue
        (fun outside => Standing.pending_of_next? due (started outside)) modest.1 (by omega)
        quietBody
      rw [afterContext] at sameBody
      rw [Sound, result, meaning, due]
      exact ⟨⟨⟨decided, soundBody⟩, soundNext⟩, by simp only [sameBody, sameNext]⟩
  | either header body alternative next bodyIH alternativeIH nextIH =>
      rw [isModest, Bool.and_eq_true, Bool.and_eq_true] at modest
      rw [ifDepth] at shallow
      obtain ⟨decided, quietBody, quietAlternative, quietNext⟩ := quiet
      obtain ⟨soundNext, sameNext⟩ := nextIH plain queue started modest.2 (by omega) quietNext
      obtain ⟨fewer, counted⟩ : ∃ fewer, count = fewer + 1 := ⟨count - 1, by omega⟩
      rw [counted] at queue
      obtain ⟨after, due, afterQueue, afterContext, _⟩ := Standing.next?_eq_some queue
      rw [← afterContext] at plain quietBody quietAlternative afterQueue
      have startedAfter : inLoop = false → after.pending = [] :=
        fun outside => Standing.pending_of_next? due (started outside)
      obtain ⟨soundBody, sameBody⟩ :=
        bodyIH plain afterQueue startedAfter modest.1.1 (by omega) quietBody
      obtain ⟨soundAlternative, sameAlternative⟩ :=
        alternativeIH plain afterQueue startedAfter modest.1.2 (by omega) quietAlternative
      rw [afterContext] at sameBody sameAlternative
      rw [Sound, result, meaning, due]
      exact ⟨⟨⟨decided, soundBody, soundAlternative⟩, soundNext⟩,
        by simp only [sameBody, sameAlternative, sameNext]⟩
  | loop header body next bodyIH nextIH =>
      rw [isModest, Bool.and_eq_true] at modest
      obtain ⟨quietBody, quietNext⟩ := quiet
      obtain ⟨soundNext, sameNext⟩ := nextIH plain queue started modest.2 shallow quietNext
      have each : ∀ entry ∈ header.entries standing.context,
          Calm setting.literalFallback (standing.enter setting.passes
              (header.scope standing.context entry)).pending body ∧
            Sound setting (standing.enter setting.passes (header.scope standing.context entry))
              body ∧
            result setting
                (standing.enter setting.passes (header.scope standing.context entry)) body =
              body.meaning setting.literalFallback (header.scope standing.context entry) := by
        intro entry member
        have plainScope : (standing.enter setting.passes
            (header.scope standing.context entry)).context.IsPlain :=
          header.isPlain_scope plain member
        cases inLoop with
        | true =>
            have noIf : hasNoIf body = true := modest.1
            exact ⟨calm_of_hasNoIf _ _ noIf, result_of_hasNoIf drops plainScope noIf⟩
        | false =>
            obtain ⟨pending, later, context, outer⟩ := standing
            cases started rfl
            rw [if_neg (by decide), Bool.and_eq_true, decide_eq_true_eq] at modest
            obtain ⟨count, counted⟩ : ∃ count, setting.passes = count + 1 :=
              ⟨setting.passes - 1, by omega⟩
            have entered : ((Standing.mk [] later context outer).enter setting.passes
                (header.scope context entry)).queue =
                List.replicate setting.passes (header.scope context entry) ++ later := by
              rw [counted]
              rfl
            refine ⟨calm_of_quiet modest.1.2 (quietBody entry member), ?_⟩
            exact bodyIH plainScope entered (by simp) modest.1.2 modest.1.1
              (quietBody entry member)
      refine ⟨⟨?_, soundNext⟩, ?_⟩
      · intro entry member
        exact ⟨(each entry member).1, (each entry member).2.1⟩
      · rw [result, meaning, sameNext]
        congr 1
        exact List.flatMap_congr fun entry member => (each entry member).2.2

end Result

end Template

namespace Engine

/-- A template renders to its meaning in the data. -/
theorem renderText_eq_meaning {engine : Engine} (ready : engine.Ready) {options : Options}
    (drops : options.preserveUndefined = false) {data : Entries} (plain : data.IsPlain)
    {template : Template}
    (modest : template.isModest engine.config.loopMaxPasses false = true)
    (shallow : template.ifDepth ≤ engine.config.maxPasses)
    (quiet : template.Quiet engine.config.literalFallback data) :
    (engine.renderText options data template.print).outcome =
      .ok (template.meaning engine.config.literalFallback data) := by
  have dropped : (engine.rendering options).loops.interpolation.preserveUndefined = false := drops
  have loopPasses : 0 < (engine.rendering options).loops.passes := ready.loopPasses
  have queue : (Standing.root engine.config.maxPasses data).queue =
      List.replicate engine.config.maxPasses data ++ [] := by
    simp [Standing.queue, Standing.root]
  obtain ⟨sound, same⟩ :
      template.Sound (engine.rendering options).loops (.root engine.config.maxPasses data) ∧
        template.result (engine.rendering options).loops (.root engine.config.maxPasses data) =
          template.meaning engine.config.literalFallback data :=
    Template.result_of_isModest dropped loopPasses plain queue (fun _ => rfl) modest shallow quiet
  rw [outcome_renderText_print options ready plain sound, same]

/-- A greeting, and a loop over orders with a block in its body. -/
def greeting : Template :=
  .text (.ofText "Dear ".toList)
    (.tag ⟨"user.name".toList, by decide +kernel⟩
      (.text (.ofText ":".toList)
        (.loop ⟨⟨"orders".toList, by decide +kernel⟩,
            some (⟨"number".toList, by decide +kernel⟩, ⟨"order".toList, by decide +kernel⟩)⟩
          (.either ⟨"order.paid".toList, by decide, by decide⟩
            (.text (.ofText " ".toList) (.tag ⟨"order.name".toList, by decide +kernel⟩ .done))
            (.text (.ofText " -".toList) .done)
            .done)
          .done)))

/-- Two orders, the first one of which is paid. -/
def greetingData : Entries :=
  [(.text "user".toList, .map 2 false [(.text "name".toList, .text "Ada".toList)]),
    (.text "orders".toList, .list 3
      [.map 4 false [(.text "name".toList, .text "tea".toList),
          (.text "paid".toList, .bool true)],
        .map 5 false [(.text "name".toList, .text "milk".toList),
          (.text "paid".toList, .bool false)]])]

theorem renderText_greeting :
    (standard.renderText ⟨none, false, false, false⟩ greetingData greeting.print).outcome =
      .ok "Dear Ada: tea -".toList := by
  have quiet : greeting.Quiet standard.config.literalFallback greetingData := by
    refine ⟨?_, trivial⟩
    intro entry _
    exact ⟨⟨_, rfl⟩, trivial, trivial, trivial⟩
  have meant : greeting.meaning standard.config.literalFallback greetingData =
      "Dear Ada: tea -".toList := by
    decide +kernel
  rw [renderText_eq_meaning standard_ready rfl (by decide +kernel) (by decide +kernel)
    (by decide +kernel) quiet, meant]

end Engine

end Stencil
