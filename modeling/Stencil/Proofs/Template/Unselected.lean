import Stencil.Proofs.Template.MarkupPasses
import Stencil.Proofs.Template.Placeholder
import Stencil.Proofs.Template.Rendered

/-!
# Branches that are not selected

A render decides the outermost blocks of a text before it fills in tags, and
deeper ones a cycle later; loops are expanded wherever they stand.  So the tags
of a branch that is not selected are never filled in, unless an outer block has
yet to be decided or the branch holds a loop.  A render in which the tags that
are met name registered filters and helpers only does not fail at an unknown
name, whatever the other tags hold.
-/

namespace Stencil

open Tag

/-- Whether the name of a key, if it has one, is no inside of a tag of an `if`
block. -/
def Value.isUnmarked (key : Value) : Bool :=
  match key.name with
  | .ok name => (ifMark? name).isNone
  | .error _ => true

/-- Whether no name that an iteration binds is the inside of a tag of an `if`
block. -/
def Entries.IsUnmarked (entries : Entries) : Prop :=
  ∀ entry ∈ entries, (entry.2.isMapping || entry.1.isUnmarked) = true

instance (entries : Entries) : Decidable entries.IsUnmarked :=
  inferInstanceAs (Decidable (∀ entry ∈ entries, _))

theorem Value.yields_name_of_isUnmarked (key : Value) (free : key.isNamedBraceFree = true)
    (unmarked : key.isUnmarked = true) :
    Yields (fun name => Text.isBraceFree name = true ∧ ifMark? name = none) key.name := by
  have yields := key.yields_name
  unfold isUnmarked at unmarked
  cases named : key.name with
  | error fault =>
      rw [named] at yields
      cases yields with
      | error familiar => exact .error familiar
  | ok name =>
      rw [named] at yields unmarked
      cases yields with
      | ok nameFree => exact .ok ⟨nameFree free, by simpa using unmarked⟩

theorem Entries.isUnmarked_set {entries : Entries} (unmarked : entries.IsUnmarked) {key : Text}
    (keyUnmarked : ifMark? key = none) (value : Value) :
    (Entries.set key value entries).IsUnmarked := by
  have named : (Value.text key).isUnmarked = true := by
    show (ifMark? key).isNone = true
    rw [keyUnmarked]
    rfl
  intro entry member
  rcases mem_set member with same | among
  · rw [same, named, Bool.or_true]
  · exact unmarked entry among

namespace Loop

theorem ifMark?_part {valueName : Text} (words : valueName.all Text.isWord = true) (name : Text) :
    ifMark? (valueName ++ '.' :: name) = none := by
  cases marked : ifMark? (valueName ++ '.' :: name) with
  | none => rfl
  | some mark => exact absurd (pads_self _) (not_pads_part words name marked)

theorem yields_partBindings {valueName : Text} (words : valueName.all Text.isWord = true)
    {value : Value} (free : value.isBraceFree = true) :
    Yields (fun bindings => ∀ binding ∈ bindings, IsHarmless binding)
      (partBindings valueName value) := by
  have valueFree := Text.isBraceFree_of_isPathChar (Text.all_isPathChar_of_isWord words)
  have named : ∀ name, Text.isBraceFree name = true →
      Text.isBraceFree (valueName ++ '.' :: name) = true ∧
        ifMark? (valueName ++ '.' :: name) = none := by
    intro name nameFree
    refine ⟨?_, ifMark?_part words name⟩
    rw [Text.isBraceFree_append, Text.isBraceFree_cons, valueFree, nameFree]
    rfl
  apply (yields_partBindings_of
    (fun name => Text.isBraceFree name = true ∧ ifMark? name = none) named free).imp
  intro bindings clear binding member
  obtain ⟨⟨nameFree, unmarked⟩, inert⟩ := clear binding member
  exact ⟨nameFree, unmarked, inert⟩

theorem yields_nameBindings {context : Entries} (free : context.IsBraceFree)
    (unmarked : context.IsUnmarked) :
    Yields (fun bindings => ∀ binding ∈ bindings, IsHarmless binding) (nameBindings context) := by
  have named : ∀ entry ∈ context, entry.1.isNamedBraceFree = true → entry.2.isMapping = false →
      Yields (fun name => Text.isBraceFree name = true ∧ ifMark? name = none) entry.1.name := by
    intro entry among nameFree noMapping
    have bound := unmarked entry among
    rw [noMapping, Bool.false_or] at bound
    exact entry.1.yields_name_of_isUnmarked nameFree bound
  apply (yields_nameBindings_of _ free named).imp
  intro bindings clear binding member
  obtain ⟨⟨nameFree, silent⟩, inert⟩ := clear binding member
  exact ⟨nameFree, silent, inert⟩

end Loop

namespace LoopTag

variable (tag : LoopTag) {context : Entries}

theorem isBraceFree_entries (free : context.IsBraceFree) :
    ∀ entry ∈ tag.entries context, entry.1.isBraceFree = true ∧ entry.2.isBraceFree = true := by
  intro entry member
  unfold entries at member
  cases found : Loop.targetEntries? (Entries.resolve tag.spec.target context) with
  | none =>
      rw [found] at member
      exact absurd member List.not_mem_nil
  | some entries =>
      rw [found] at member
      exact Entries.isBraceFree_targetEntries (Entries.isBraceFree_resolve free _) found entry
        member

theorem isBraceFree_scope (free : context.IsBraceFree) {entry : Value × Value}
    (member : entry ∈ tag.entries context) : (tag.scope context entry).IsBraceFree := by
  obtain ⟨key, value⟩ := tag.isBraceFree_entries free entry member
  obtain ⟨keyWords, valueWords⟩ := Loop.Spec.all_isWord_names tag.header
  have wordFree : ∀ {word : Text}, word.all Text.isWord = true → Text.isBraceFree word = true :=
    fun words => Text.isBraceFree_of_isPathChar (Text.all_isPathChar_of_isWord words)
  exact Entries.isBraceFree_set (Entries.isBraceFree_set free (wordFree keyWords) key)
    (wordFree valueWords) value

theorem isUnmarked_scope (unmarked : context.IsUnmarked) (entry : Value × Value) :
    (tag.scope context entry).IsUnmarked :=
  Entries.isUnmarked_set (Entries.isUnmarked_set unmarked tag.keyName entry.1) tag.valueName
    entry.2

theorem outcome_expand (setting : Loop.Setting) (inner : Text → Entries → Logged Text)
    (context : Entries) (body : Text) :
    (setting.expand inner context (tag.frame.block body)).outcome =
      joined (fun entry =>
          (setting.iteration inner (tag.frame.block body) tag.spec context entry).outcome)
        (tag.entries context) := by
  have said : Loop.Spec.ofText (tag.frame.block body).header = tag.spec := rfl
  rw [Loop.Setting.expand, said, entries]
  cases Loop.targetEntries? (Entries.resolve tag.spec.target context) with
  | some entries => exact Logged.outcome_concat _ entries
  | none => rfl

end LoopTag

theorem Gives.joined {fine : Markup → Prop} {render : α → Except Fault Text} {list : List α}
    (each : ∀ member ∈ list, Gives fine (render member)) (empty : fine .done)
    (both : ∀ first later, fine first → fine later → fine (first ++ later)) :
    Gives fine (joined render list) := by
  induction list with
  | nil => exact ok .done empty
  | cons first later ih =>
      have rest := ih fun member among => each member (List.mem_cons_of_mem first among)
      exact (each first List.mem_cons_self).together rest both

theorem Gives.repeated {fine : Markup → Prop} {pass : Text → Except Fault Text}
    (keeps : ∀ markup, fine markup → Gives fine (pass markup.print)) (count : Nat)
    {markup : Markup} (start : fine markup) :
    Gives fine (repeated pass count markup.print) := by
  induction count generalizing markup with
  | zero => exact ok markup start
  | succ count ih => exact (keeps markup start).bind fun _ next => ih next

namespace Markup

/-- Whether the loops of markup meet only tags as they should be: in each
iteration those that are left outside the loops inside it once its outermost
blocks have been decided, and whatever these loops meet then. -/
inductive LoopsMeetOnly (literalFallback : Bool) (good : InlineTag → Prop) :
    Entries → Markup → Prop where
  | intro {context : Entries} {markup : Markup}
      (kept : ∀ loop ∈ markup.loops, ∀ entry ∈ loop.1.entries context,
        ∀ tag ∈ loop.2.keptTags literalFallback (loop.1.scope context entry), good tag)
      (inside : ∀ loop ∈ markup.loops, ∀ entry ∈ loop.1.entries context, ∀ left,
        Peels literalFallback (loop.1.scope context entry) loop.2 left →
          LoopsMeetOnly literalFallback good (loop.1.scope context entry) left) :
      LoopsMeetOnly literalFallback good context markup

/-- Whether a render of markup meets only tags as they should be. -/
structure MeetsOnly (literalFallback : Bool) (good : InlineTag → Prop) (data : Entries)
    (markup : Markup) : Prop where
  kept : ∀ tag ∈ markup.keptTags literalFallback data, good tag
  loops : LoopsMeetOnly literalFallback good data markup

/-- The tags of markup that are reached by following the selected branch of
every block and going through every loop. -/
def selectedTags (literalFallback : Bool) : Entries → Markup → List InlineTag
  | _, done => []
  | context, text _ next => next.selectedTags literalFallback context
  | context, inline tag next => tag :: next.selectedTags literalFallback context
  | context, guarded tag body next =>
      chosen (tag.condition.holds literalFallback context)
          (body.selectedTags literalFallback context) []
        ++ next.selectedTags literalFallback context
  | context, either tag body alternative next =>
      chosen (tag.condition.holds literalFallback context)
          (body.selectedTags literalFallback context)
          (alternative.selectedTags literalFallback context)
        ++ next.selectedTags literalFallback context
  | context, loop tag body next =>
      ((tag.entries context).flatMap fun entry =>
          body.selectedTags literalFallback (tag.scope context entry))
        ++ next.selectedTags literalFallback context

section Passes

variable {setting : Loop.Setting} (keeps : setting.interpolation.KeepsBraceFree)

/-- Markup that has no loops and names registered filters and helpers only. -/
abbrev IsFamiliar (interpolation : Interpolation) : Markup → Prop :=
  IsSettled (InlineTag.IsFamiliar interpolation)

include keeps in
theorem gives_interpolationPass_of_isFamiliar {context : Entries} (free : context.IsBraceFree)
    {markup : Markup} (familiar : IsFamiliar setting.interpolation markup) :
    Gives (IsFamiliar setting.interpolation)
      (setting.interpolation.pass context markup.print).outcome := by
  apply (gives_interpolationPass keeps free familiar.loopFree familiar.tags).imp
  intro filled fills
  exact ⟨fills.loops_eq.trans familiar.loopFree,
    (fills.addsOnly_tags _).forall_mem familiar.tags⟩

include keeps in
theorem gives_cycle {inner : Text → Entries → Logged Text} {scope : Entries}
    (free : scope.IsBraceFree) {markup : Markup}
    (kept : ∀ tag ∈ markup.keptTags setting.literalFallback scope,
      tag.IsFamiliar setting.interpolation)
    (expands : ∀ left, Peels setting.literalFallback scope markup left →
      Gives (Flattens setting.literalFallback (InlineTag.IsFamiliar setting.interpolation) left)
        (inner left.print scope).outcome) :
    Gives (IsFamiliar setting.interpolation) (setting.cycle inner scope markup.print).outcome := by
  rw [Loop.Setting.cycle, Logged.outcome_bind, Logged.outcome_lift]
  apply (gives_conditionPass setting.literalFallback scope markup).bind
  intro left peels
  rw [Logged.outcome_bind]
  apply (expands left peels).bind
  intro flat flattens
  apply gives_interpolationPass_of_isFamiliar keeps free
  refine ⟨flattens.loopFree, flattens.tags.forall_mem ?_⟩
  rw [peels.tags_eq]
  exact kept

theorem gives_passWithin_of_loopFree (good : InlineTag → Prop) (depth : Nat) (context : Entries)
    {markup : Markup} (loopFree : markup.loops = []) :
    Gives (Flattens setting.literalFallback good markup)
      (setting.passWithin depth markup.print context).outcome := by
  rw [Loop.Setting.outcome_passWithin]
  apply gives_replace
  rw [loopFree]
  exact fun loop member => absurd member List.not_mem_nil

include keeps in
theorem gives_cycle_of_isFamiliar (depth : Nat) {scope : Entries} (free : scope.IsBraceFree)
    {markup : Markup} (familiar : IsFamiliar setting.interpolation markup) :
    Gives (IsFamiliar setting.interpolation)
      (setting.cycle (setting.passWithin depth) scope markup.print).outcome := by
  apply gives_cycle keeps free
  · exact (addsOnly_keptTags _ _ scope markup).forall_mem familiar.tags
  · intro left peels
    exact gives_passWithin_of_loopFree _ depth scope (peels.loops_eq_nil familiar.loopFree)

include keeps in
/-- An iteration leaves no loop and no tag with an unknown name. -/
theorem gives_iteration (passes : 0 < setting.passes) {depth : Nat} {tag : LoopTag}
    {body : Markup} {context : Entries} (free : context.IsBraceFree)
    (unmarked : context.IsUnmarked) {entry : Value × Value}
    (member : entry ∈ tag.entries context)
    (kept : ∀ inline ∈ body.keptTags setting.literalFallback (tag.scope context entry),
      inline.IsFamiliar setting.interpolation)
    (expands : ∀ left, Peels setting.literalFallback (tag.scope context entry) body left →
      ∀ filled, Filled left filled →
        Gives (Flattens setting.literalFallback (InlineTag.IsFamiliar setting.interpolation)
          filled) (setting.passWithin depth filled.print (tag.scope context entry)).outcome) :
    Gives (IsFamiliar setting.interpolation)
      (setting.iteration (setting.passWithin depth) (tag.frame.block body.print) tag.spec context
        entry).outcome := by
  have scopeFree := tag.isBraceFree_scope free member
  have words := (Loop.Spec.all_isWord_names tag.header).2
  rw [Loop.Setting.outcome_iteration]
  apply (Loop.yields_partBindings words (tag.isBraceFree_entries free entry member).2).bind
  intro parts partsHarmless
  apply (Loop.yields_nameBindings scopeFree (tag.isUnmarked_scope unmarked entry)).bind
  intro names namesHarmless
  have harmless : ∀ binding ∈ parts ++ names, Loop.IsHarmless binding :=
    List.forall_mem_append.mpr ⟨partsHarmless, namesHarmless⟩
  obtain ⟨bound, fills, bindsTo⟩ := exists_bindOutside harmless body
  have started : Loop.bindOutside (parts ++ names) (tag.frame.block body.print).body =
      bound.print := bindsTo
  obtain ⟨count, counted⟩ : ∃ count, setting.passes = count + 1 :=
    ⟨setting.passes - 1, by omega⟩
  rw [started, counted]
  -- The first cycle decides blocks and expands loops; those after it find neither
  -- a loop nor a tag that they do not know.
  have first : Gives (IsFamiliar setting.interpolation)
      (setting.cycle (setting.passWithin depth) (tag.scope context entry) bound.print).outcome := by
    apply gives_cycle keeps scopeFree
    · exact (fills.addsOnly_keptTags _ _ _).forall_mem kept
    · intro left peels
      obtain ⟨before, peeled, same⟩ := fills.exists_peels peels
      exact expands before peeled left same
  exact first.bind fun next familiar =>
    Gives.repeated (fun _ here => gives_cycle_of_isFamiliar keeps depth scopeFree here) count
      familiar

include keeps in
/-- The pass over loops leaves no loop, and adds only tags with registered
names. -/
theorem LoopsMeetOnly.gives_passWithin (passes : 0 < setting.passes) {context : Entries}
    {markup : Markup}
    (meets : LoopsMeetOnly setting.literalFallback (InlineTag.IsFamiliar setting.interpolation)
      context markup)
    (free : context.IsBraceFree) (unmarked : context.IsUnmarked) (depth : Nat)
    {filled : Markup} (fills : Filled markup filled) :
    Gives (Flattens setting.literalFallback (InlineTag.IsFamiliar setting.interpolation) filled)
      (setting.passWithin depth filled.print context).outcome := by
  induction meets generalizing depth filled with
  | @intro context markup kept _ ih =>
      rw [Loop.Setting.outcome_passWithin]
      apply gives_replace
      rw [fills.loops_eq]
      intro loop member
      cases depth with
      | zero => exact .error rfl
      | succ depth =>
          show Gives _ (setting.expand (setting.passWithin depth) context
            (loop.1.frame.block loop.2.print)).outcome
          rw [LoopTag.outcome_expand]
          refine Gives.joined ?_ ⟨rfl, fun tag among => absurd among List.not_mem_nil⟩
            fun _ _ left right => left.append right
          intro entry among
          apply gives_iteration keeps passes free unmarked among (kept loop member entry among)
          intro left peels filled fills
          exact ih loop member entry among left peels
            (loop.1.isBraceFree_scope free among) (loop.1.isUnmarked_scope unmarked entry) depth
            fills

theorem LoopsMeetOnly.of_unnested {literalFallback : Bool} {good : InlineTag → Prop}
    {context : Entries} {markup : Markup}
    (unnested : ∀ loop ∈ markup.loops, loop.2.loops = [])
    (kept : ∀ loop ∈ markup.loops, ∀ entry ∈ loop.1.entries context,
      ∀ tag ∈ loop.2.keptTags literalFallback (loop.1.scope context entry), good tag) :
    LoopsMeetOnly literalFallback good context markup := by
  refine .intro kept fun loop member entry _ left peels => ?_
  have loopFree := peels.loops_eq_nil (unnested loop member)
  constructor
  · rw [loopFree]
    exact fun inner among => absurd among List.not_mem_nil
  · rw [loopFree]
    exact fun inner among => absurd among List.not_mem_nil

theorem gives_rootCycle {rendering : Rendering}
    (keeps : rendering.loops.interpolation.KeepsBraceFree) {data : Entries}
    (free : data.IsBraceFree) {markup : Markup}
    (kept : ∀ tag ∈ markup.keptTags rendering.loops.literalFallback data,
      tag.IsFamiliar rendering.loops.interpolation)
    (expands : Gives (Flattens rendering.loops.literalFallback
        (InlineTag.IsFamiliar rendering.loops.interpolation) markup)
      (rendering.loops.pass markup.print data).outcome) :
    Gives (IsFamiliar rendering.loops.interpolation)
      (rendering.cycle data markup.print).outcome := by
  rw [Rendering.cycle, Logged.outcome_bind]
  apply expands.bind
  intro flat flattens
  rw [Logged.outcome_bind, Logged.outcome_lift]
  apply (gives_conditionPass rendering.loops.literalFallback data flat).bind
  intro left peels
  apply gives_interpolationPass_of_isFamiliar keeps free
  refine ⟨peels.loops_eq_nil flattens.loopFree, ?_⟩
  rw [peels.tags_eq]
  exact (flattens.keptTags data).forall_mem kept

theorem gives_rootCycle_of_isFamiliar {rendering : Rendering}
    (keeps : rendering.loops.interpolation.KeepsBraceFree) {data : Entries}
    (free : data.IsBraceFree) {markup : Markup}
    (familiar : IsFamiliar rendering.loops.interpolation markup) :
    Gives (IsFamiliar rendering.loops.interpolation)
      (rendering.cycle data markup.print).outcome := by
  apply gives_rootCycle keeps free
  · exact (addsOnly_keptTags _ _ data markup).forall_mem familiar.tags
  · exact gives_passWithin_of_loopFree _ _ data familiar.loopFree

end Passes

end Markup

namespace Engine

variable {engine : Engine} (options : Options)

/-- What a render that meets registered filters and helpers only ends with. -/
theorem gives_renderText (ready : engine.Ready) (filters : engine.filters.KeepsBraceFree)
    (helpers : engine.helpers.KeepsBraceFree) {data : Entries} (free : data.IsBraceFree)
    (unmarked : data.IsUnmarked) {markup : Markup}
    (meets : markup.MeetsOnly engine.config.literalFallback
      (InlineTag.IsFamiliar (engine.interpolation options)) data) :
    Gives (Markup.IsFamiliar (engine.interpolation options))
      (engine.renderText options data markup.print).outcome := by
  have keeps : (engine.rendering options).loops.interpolation.KeepsBraceFree := ⟨filters, helpers⟩
  obtain ⟨count, counted⟩ : ∃ count, engine.config.maxPasses = count + 1 :=
    ⟨engine.config.maxPasses - 1, by have := ready.passes; omega⟩
  have first := Markup.gives_rootCycle keeps free meets.kept
    (meets.loops.gives_passWithin keeps ready.loopPasses free unmarked
      (Loop.room markup.print) (.refl markup))
  rw [outcome_renderText options ready.noHooks, counted]
  exact first.bind fun next familiar =>
    Gives.repeated (fun _ here => Markup.gives_rootCycle_of_isFamiliar keeps free here) count
      familiar

/-- A render that meets registered filters and helpers only does not fail at an
unknown name, whatever stands in the tags that it does not meet. -/
theorem renderText_ne_unknownName (ready : engine.Ready)
    (filters : engine.filters.KeepsBraceFree) (helpers : engine.helpers.KeepsBraceFree)
    {data : Entries} (free : data.IsBraceFree) (unmarked : data.IsUnmarked) {markup : Markup}
    (meets : markup.MeetsOnly engine.config.literalFallback
      (InlineTag.IsFamiliar (engine.interpolation options)) data)
    (kind : Callable) (name : Text) :
    (engine.renderText options data markup.print).outcome ≠ .error (.unknownName kind name) :=
  Yields.ne_unknownName (gives_renderText options ready filters helpers free unmarked meets) kind
    name

/-- An engine that refuses names that are not registered. -/
def strict : Engine :=
  { standard with
    config := { Config.default with filterPolicy := .strict, helperPolicy := .strict } }

/-- A tag with a filter that every engine has. -/
def shoutedName : InlineTag :=
  ⟨"name|upper".toList, by decide +kernel, by decide, by decide +kernel, by decide +kernel⟩

/-- A tag with a filter that no engine has from the start. -/
def mangledName : InlineTag :=
  ⟨"name|mangle".toList, by decide +kernel, by decide, by decide +kernel, by decide +kernel⟩

def ifReady : IfTag :=
  ⟨"if ready".toList, "ready".toList, by decide +kernel, by decide +kernel, by decide⟩

def ifLate : IfTag :=
  ⟨"if late".toList, "late".toList, by decide +kernel, by decide +kernel, by decide⟩

def ifItem : IfTag :=
  ⟨"if item".toList, "item".toList, by decide +kernel, by decide +kernel, by decide⟩

def eachGuest : LoopTag :=
  ⟨"foreach:guests".toList, "guests".toList, by decide +kernel, by decide +kernel,
    by decide +kernel, by decide +kernel⟩

/-- Something that holds and something that does not, a name, and a guest. -/
def guestData : Entries :=
  [(.text "ready".toList, .bool true), (.text "late".toList, .bool false),
    (.text "name".toList, .text "ann".toList),
    (.text "guests".toList, .list 2 [.text "bob".toList])]

/-- Blocks with an unknown filter in the branch that is not selected, on their
own and in a loop. -/
def choices : Markup :=
  .either ifReady (.inline shoutedName .done) (.inline mangledName .done)
    (.loop eachGuest
      (.either ifItem (.inline shoutedName .done) (.inline mangledName .done) .done) .done)

/-- The unknown filter in the branches that are not selected does no harm. -/
theorem renderText_choices :
    choices.print = ("{{if ready}}{{name|upper}}{{else}}{{name|mangle}}{{endif}}".toList ++
      "{{foreach:guests}}{{if item}}{{name|upper}}{{else}}{{name|mangle}}{{endif}}".toList ++
      "{{endforeach}}".toList) ∧
    (strict.renderText Options.default guestData choices.print).outcome ≠
      .error (.unknownName .filter "mangle".toList) := by
  have meets : choices.MeetsOnly strict.config.literalFallback
      (InlineTag.IsFamiliar (strict.interpolation Options.default)) guestData :=
    ⟨by decide +kernel, Markup.LoopsMeetOnly.of_unnested (by decide +kernel) (by decide +kernel)⟩
  exact ⟨by decide +kernel,
    renderText_ne_unknownName Options.default ⟨rfl, by decide, by decide⟩
      Filter.builtin_keepsBraceFree Helper.builtin_keepsBraceFree (by decide +kernel)
      (by decide +kernel) meets .filter "mangle".toList⟩

/-- A render that fails at an unknown filter, although no tag has it that is
reached by following the selected branch of every block. -/
structure FailsUnselected (engine : Engine) (data : Entries) (markup : Markup) : Prop where
  free : data.IsBraceFree
  filters : engine.config.filterPolicy = .strict
  helpers : engine.config.helperPolicy = .strict
  familiar : ∀ tag ∈ markup.selectedTags engine.config.literalFallback data,
    tag.IsFamiliar (engine.interpolation Options.default)
  fails : (engine.renderText Options.default data markup.print).outcome =
    .error (.unknownName .filter "mangle".toList)

def nestedChoice : Markup :=
  .guarded ifReady (.guarded ifLate (.inline mangledName .done) .done) .done

def unselectedLoop : Markup :=
  .guarded ifLate (.loop eachGuest (.inline mangledName .done) .done) .done

def choiceInLoop : Markup :=
  .loop eachGuest
    (.either ifReady (.inline shoutedName .done) (.inline mangledName .done) .done) .done

def greetingCall : InlineTag :=
  ⟨"greet()".toList, by decide +kernel, by decide, by decide +kernel, by decide +kernel⟩

/-- An engine with a helper that gives a tag. -/
def quoting : Engine :=
  { strict with
    helpers := { Helper.builtin with
      functions := Helper.builtin.functions ++
        [("greet".toList, fun _ => .ok (.text (tagged mangledName.interior)))] } }

/-- An engine with a hook that adds a tag. -/
def extending : Engine :=
  { strict with
    hooks := some ⟨fun text _ => return text ++ tagged mangledName.interior, fun text _ => return text⟩ }

/-- A block inside a loop with a name that is the inside of a separator. -/
def separatingLoop : Text :=
  "{{foreach:guests as place => else}}{{if ready}}{{else}}{{name|mangle}}{{endif}}".toList ++
    "{{endforeach}}".toList

/-- A tag that is not reached is filled in if it is in a block that is decided
a cycle later, if it is in a loop, if a name of the data or of a loop takes the
place of the separator of its block, if a helper gives it and if a hook adds
it. -/
theorem renderText_unselected :
    strict.FailsUnselected guestData nestedChoice ∧
      strict.FailsUnselected guestData unselectedLoop ∧
      strict.FailsUnselected ((.text Tag.elseWord, .null) :: guestData) choiceInLoop ∧
      (strict.renderText Options.default guestData separatingLoop).outcome =
        .error (.unknownName .filter "mangle".toList) ∧
      quoting.FailsUnselected guestData (.inline greetingCall .done) ∧
      extending.FailsUnselected guestData .done := by
  refine ⟨?_, ?_, ?_, by decide +kernel, ?_, ?_⟩
  all_goals exact ⟨by decide +kernel, rfl, rfl, by decide +kernel, by decide +kernel⟩

end Engine

end Stencil
