import Stencil.Proofs.Template.Passes
import Stencil.Proofs.Template.Quoting

/-!
# Written pipelines

A tag with a head, steps and quoted arguments, as it is written.  The bars are
the only places where its expression is cut, so the head and the steps come back
one by one; each step is a name with the arguments behind the colon, and a head
that is a call has its arguments between the parentheses.  A pass over the tag
is the composition of the functions that are named.
-/

namespace Stencil

theorem Registry.lookup_of_get? {registry : Registry} {name : Text} {function : Function}
    (registered : registry.get? name = some function) (policy : Policy) :
    registry.lookup name policy = pure (some function) := by
  simp only [lookup, registered]

/-- A step of a pipeline: a filter with arguments; without any, its name alone. -/
structure FilterStep where
  name : FunctionName
  arguments : ArgumentList

namespace FilterStep

def text (step : FilterStep) : Text :=
  step.name.text ++ step.arguments.suffix

variable (step : FilterStep)

theorem whole : Arguments.Whole '|' step.text where
  nonempty := List.append_ne_nil_of_left_ne_nil step.name.wellFormed.1 _
  first := by
    rw [text, List.head?_append_of_ne_nil _ step.name.wellFormed.1]
    exact Text.head?_isBlank_of_isPathChar step.name.isPathChar
  last := by
    obtain ⟨name, list⟩ := step
    cases list with
    | none =>
        simpa [text, ArgumentList.suffix] using
          Text.getLast?_isBlank_of_isPathChar name.isPathChar
    | some first later =>
        have spelled : text ⟨name, .some first later⟩ =
            (name.text ++ [':']) ++ (ArgumentList.some first later).raw := by
          simp [text, ArgumentList.suffix]
        have nonempty : (ArgumentList.some first later).raw ≠ [] :=
          List.append_ne_nil_of_left_ne_nil (first.whole ',').nonempty _
        rw [spelled, List.getLast?_append_of_ne_nil _ nonempty]
        exact ArgumentList.getLast?_raw _
  closed := by
    apply Arguments.closed_append (step.name.closed (by decide))
    cases step.arguments with
    | none => exact Arguments.closed_nil
    | some first later =>
        have colon : Arguments.Closed '|' [':'] :=
          Arguments.closed_singleton (by decide) (by decide)
        exact Arguments.closed_append colon (ArgumentList.closed_raw (.some first later))

theorem isBraceFree : Text.isBraceFree step.text = true := by
  rw [text, Text.isBraceFree_append, step.name.isBraceFree, Bool.true_and]
  cases step.arguments with
  | none => rfl
  | some first later =>
      rw [ArgumentList.suffix, Text.isBraceFree_cons, ArgumentList.isBraceFree_raw]
      rfl

theorem ofText?_text :
    Filter.Segment.ofText? step.text =
      some ⟨step.name.text, Arguments.parse step.arguments.raw⟩ := by
  have trimmed : Text.trim step.text = step.text :=
    Text.trim_eq_self step.whole.first step.whole.last
  have stops : ∀ char ∈ step.arguments.suffix.head?, Text.isNameChar char = false := by
    intro char first
    cases list : step.arguments with
    | none =>
        rw [list] at first
        cases first
    | some _ _ =>
        rw [list] at first
        cases first
        decide
  have name : (Text.trim step.text).takeWhile Text.isNameChar = step.name.text := by
    rw [trimmed, text, step.name.takeWhile_append stops]
  have rest : (Text.trim step.text).dropWhile Text.isNameChar = step.arguments.suffix := by
    rw [trimmed, text, step.name.dropWhile_append stops]
  rw [Filter.Segment.ofText?]
  simp only [name, rest, if_neg step.name.wellFormed.1]
  cases step.arguments with
  | none => rfl
  | some first later => rfl

/-- A step applies its filter to the arguments as they are written. -/
theorem step_text {registry : Registry} {filter : Function}
    (registered : registry.get? step.name.text = some filter) (policy : Policy) (value : Value) :
    Filter.step registry policy value step.text =
      Logged.lift (filter (value :: step.arguments.values)) := by
  rw [Filter.step, step.ofText?_text]
  dsimp only
  rw [Registry.lookup_of_get? registered, step.arguments.parse_raw]
  rfl

end FilterStep

/-- What a pipeline begins with: the name of a variable, or the call of a helper. -/
inductive PipelineHead where
  | named (name : FunctionName) (notIf : name.text ≠ ['i', 'f'])
  | call (name : FunctionName) (arguments : ArgumentList)

namespace PipelineHead

def text : PipelineHead → Text
  | named name _ => name.text
  | call name arguments => name.text ++ '(' :: (arguments.raw ++ [')'])

/-- What a head stands for: the value of a variable that is defined, or what a
helper gives for the arguments as they are written. -/
inductive Denotes (helpers : Registry) (context : Entries) :
    PipelineHead → Except Fault Value → Prop where
  | named {name : FunctionName} {notIf : name.text ≠ ['i', 'f']}
      (defined : Entries.lookup name.text context ≠ .undefined) :
      Denotes helpers context (.named name notIf) (.ok (Entries.lookup name.text context))
  | call {name : FunctionName} {arguments : ArgumentList} {helper : Function}
      (registered : helpers.get? name.text = some helper) :
      Denotes helpers context (.call name arguments) (helper arguments.values)

variable (head : PipelineHead)

theorem whole : Arguments.Whole '|' head.text := by
  cases head with
  | named name notIf =>
      exact ⟨name.wellFormed.1, Text.head?_isBlank_of_isPathChar name.isPathChar,
        Text.getLast?_isBlank_of_isPathChar name.isPathChar, name.closed (by decide)⟩
  | call name arguments =>
      refine ⟨List.append_ne_nil_of_left_ne_nil name.wellFormed.1 _, ?_, ?_, ?_⟩
      · rw [text, List.head?_append_of_ne_nil _ name.wellFormed.1]
        exact Text.head?_isBlank_of_isPathChar name.isPathChar
      · intro char last
        rw [text, ← List.cons_append, ← List.append_assoc, List.getLast?_concat] at last
        cases last
        decide
      · have opening : Arguments.Closed '|' ['('] :=
          Arguments.closed_singleton (by decide) (by decide)
        have closing : Arguments.Closed '|' [')'] :=
          Arguments.closed_singleton (by decide) (by decide)
        exact Arguments.closed_append (name.closed (by decide))
          (Arguments.closed_append opening (Arguments.closed_append arguments.closed_raw closing))

theorem isBraceFree : Text.isBraceFree head.text = true := by
  cases head with
  | named name notIf => exact name.isBraceFree
  | call name arguments =>
      simp only [text, Text.isBraceFree_append, Text.isBraceFree_cons, name.isBraceFree,
        arguments.isBraceFree_raw]
      decide

theorem ofText?_named (name : FunctionName) : Helper.Call.ofText? name.text = none := by
  have rest : name.text.dropWhile Text.isNameChar = [] :=
    List.dropWhile_eq_nil_iff.mpr (List.all_eq_true.mp name.wellFormed.2)
  rw [Helper.Call.ofText?, rest]
  simp [Helper.Call.withoutLineEnd]

theorem ofText?_call (name : FunctionName) (arguments : ArgumentList) :
    Helper.Call.ofText? (text (.call name arguments)) = some ⟨name.text, arguments.raw⟩ := by
  have stops : ∀ char ∈ ('(' :: (arguments.raw ++ [')'])).head?, Text.isNameChar char = false := by
    intro char first
    cases first
    decide
  have last : ('(' :: (arguments.raw ++ [')'])).getLast? = some ')' := by
    rw [← List.cons_append, List.getLast?_concat]
  rw [Helper.Call.ofText?, text, name.takeWhile_append stops, name.dropWhile_append stops]
  simp [name.wellFormed.1, Helper.Call.withoutLineEnd, last]

end PipelineHead


/-- A tag with an expression that has at least one filter. -/
structure PipelineTag where
  before : Blanks
  head : PipelineHead
  steps : List (Blanks × Blanks × FilterStep)
  nonempty : steps ≠ []
  after : Blanks

namespace PipelineTag

def expression (tag : PipelineTag) : Text :=
  Arguments.separated '|' tag.head.text
    (tag.steps.map fun (before, after, step) => (before, after, step.text))

def text (tag : PipelineTag) : Text :=
  Tag.tagged (tag.before.text ++ tag.expression ++ tag.after.text)

def filters (tag : PipelineTag) : List FilterStep :=
  tag.steps.map fun (_, _, step) => step

variable (tag : PipelineTag)

theorem forall_written (holds : Text → Prop) (each : ∀ step : FilterStep, holds step.text) :
    ∀ part ∈ tag.steps.map fun (before, after, step) => (before, after, step.text),
      holds part.2.2 := by
  intro part member
  obtain ⟨⟨_, _, step⟩, _, rfl⟩ := List.mem_map.mp member
  exact each step

theorem split_expression :
    Interpolation.split tag.expression = (tag.head.text, tag.filters.map FilterStep.text) := by
  have cut : Arguments.split ['|'] tag.expression =
      tag.head.text :: tag.filters.map FilterStep.text := by
    refine (Arguments.split_separated (by decide) (by decide) .none tag.head.whole _
      (tag.forall_written _ FilterStep.whole)).trans ?_
    simp [filters, Function.comp_def]
  rw [Interpolation.split, cut]

theorem isBraceFree_interior :
    Text.isBraceFree (tag.before.text ++ tag.expression ++ tag.after.text) = true := by
  have free : Text.isBraceFree tag.expression = true :=
    Arguments.isBraceFree_separated (by decide) tag.head.isBraceFree _
      (tag.forall_written (fun text => Text.isBraceFree text = true) FilterStep.isBraceFree)
  simp only [Text.isBraceFree_append, tag.before.isBraceFree, free, tag.after.isBraceFree,
    Bool.and_self]

theorem expression_ne_nil : tag.expression ≠ [] :=
  List.append_ne_nil_of_left_ne_nil tag.head.whole.nonempty _

theorem expression_interior :
    Tag.expression (tag.before.text ++ tag.expression ++ tag.after.text) = tag.expression := by
  have first : ∀ char ∈ tag.expression.head?, Text.isBlank char = false := by
    rw [expression, Arguments.separated, List.head?_append_of_ne_nil _ tag.head.whole.nonempty]
    exact tag.head.whole.first
  have last : ∀ char ∈ tag.expression.getLast?, Text.isBlank char = false :=
    Arguments.getLast?_separated tag.head.whole _ (tag.forall_written _ FilterStep.whole)
  rw [Tag.expression, Text.trim_between tag.expression_ne_nil first last tag.before.blank
    tag.after.blank, if_neg tag.expression_ne_nil]

/-- Behind the name that an expression begins with stands a character that ends
the name; it is no colon, and it is not blank if the name is that of a block. -/
theorem exists_expression_eq :
    ∃ (name : FunctionName) (stop : Char) (rest : Text),
      tag.expression = name.text ++ stop :: rest ∧ Text.isNameChar stop = false ∧ stop ≠ ':' ∧
        (Text.isBlank stop = true → name.text ≠ ['i', 'f']) := by
  rw [expression, Arguments.separated]
  cases tag.head with
  | call name arguments =>
      rw [PipelineHead.text, List.append_assoc, List.cons_append]
      exact ⟨name, '(', _, rfl, by decide, by decide, fun blank => absurd blank (by decide)⟩
  | named name notIf =>
      rw [PipelineHead.text]
      cases steps : tag.steps with
      | nil => exact absurd steps tag.nonempty
      | cons step later =>
          obtain ⟨⟨blanks, wellFormed⟩, after, filter⟩ := step
          cases blanks with
          | nil => exact ⟨name, '|', _, rfl, by decide, by decide, fun _ => notIf⟩
          | cons char blanks =>
              have here := List.all_eq_true.mp wellFormed char List.mem_cons_self
              exact ⟨name, char, _, rfl, Text.isNameChar_of_isBlank here,
                Text.ne_of_isBlank here (by decide), fun _ => notIf⟩

end PipelineTag

namespace Interpolation

section Reserved

variable {name : FunctionName} {stop : Char} {rest : Text}
  (stops : Text.isNameChar stop = false)

include stops

theorem name_eq_of_append_eq {word later : Text} {next : Char}
    (names : word.all Text.isNameChar = true) (ends : Text.isNameChar next = false)
    (same : name.text ++ stop :: rest = word ++ next :: later) :
    name.text = word ∧ stop = next := by
  have atStop : ∀ char ∈ (stop :: rest).head?, Text.isNameChar char = false := by
    intro char first
    cases first
    exact stops
  have atNext : ∀ char ∈ (next :: later).head?, Text.isNameChar char = false := by
    intro char first
    cases first
    exact ends
  have taken := name.takeWhile_append atStop
  have left := name.dropWhile_append atStop
  rw [same, Text.takeWhile_append_of_stop names atNext] at taken
  rw [same, Text.dropWhile_append_of_stop names atNext] at left
  exact ⟨taken.symm, (List.cons.inj left).1.symm⟩

theorem contains_blockWords_name_append :
    blockWords.contains (name.text ++ stop :: rest) = false := by
  cases found : blockWords.contains (name.text ++ stop :: rest) with
  | false => rfl
  | true =>
      have names : blockWords.all (·.all Text.isNameChar) = true := by decide
      have word := List.all_eq_true.mp names _ (List.contains_iff_mem.mp found)
      rw [List.all_eq_true.mp word stop (by simp)] at stops
      exact absurd stops (by decide)

theorem any_blockHeads_name_append (noColon : stop ≠ ':') :
    (blockHeads.any fun head => Text.startsWith (name.text ++ stop :: rest) head) = false := by
  rw [List.any_eq_false]
  intro head member starts
  have spelled : ∃ word : Text, head = word ++ [':'] ∧ word.all Text.isNameChar = true := by
    simp only [blockHeads, List.mem_cons, List.not_mem_nil, or_false] at member
    rcases member with rfl | rfl
    · exact ⟨"foreach".toList, by decide, by decide⟩
    · exact ⟨"include".toList, by decide, by decide⟩
  obtain ⟨word, rfl, names⟩ := spelled
  obtain ⟨more, after⟩ := Option.isSome_iff_exists.mp starts
  have same := Text.after?_eq_some_iff.mp after
  rw [List.append_assoc] at same
  exact noColon (name_eq_of_append_eq stops names (by decide) same).2

theorem isReserved_name_append (noColon : stop ≠ ':')
    (notIf : Text.isBlank stop = true → name.text ≠ ['i', 'f']) :
    isReserved (name.text ++ stop :: rest) = false := by
  rw [isReserved, contains_blockWords_name_append stops, any_blockHeads_name_append stops noColon,
    Bool.false_or, Bool.false_or]
  split
  · next char more after =>
      cases blank : Text.isBlank char with
      | false => rfl
      | true =>
          -- The name ends where the word does.
          have same := Text.after?_eq_some_iff.mp after
          obtain ⟨isIf, rfl⟩ := name_eq_of_append_eq stops (by decide)
            (Text.isNameChar_of_isBlank blank) same
          exact absurd isIf (notIf blank)
  · rfl

end Reserved

end Interpolation

namespace Logged

theorem lift_bind (outcome : Except Fault α) (next : α → Except Fault β) :
    (lift outcome >>= fun value => lift (next value)) = lift (outcome >>= next) := by
  cases outcome with
  | error fault => rfl
  | ok value => rfl

theorem concat_singleton (render : α → Logged Text) (member : α) :
    concat render [member] = render member := by
  show Logged.bind (render member) (fun text => ⟨[] ++ [], .ok (text ++ [])⟩) = render member
  unfold Logged.bind
  cases rendered : render member with
  | mk log outcome => cases outcome <;> simp

end Logged

namespace Filter

/-- The steps of a written pipeline apply their filters from left to right. -/
theorem pipeline_texts {registry : Registry} {filterOf : Text → Function} (policy : Policy)
    {steps : List FilterStep}
    (registered : ∀ step ∈ steps,
      registry.get? step.name.text = some (filterOf step.name.text)) (value : Value) :
    pipeline registry policy (steps.map FilterStep.text) value =
      Logged.lift (steps.foldlM
        (fun value step => filterOf step.name.text (value :: step.arguments.values)) value) := by
  induction steps generalizing value with
  | nil => rfl
  | cons step steps ih =>
      obtain ⟨here, later⟩ := List.forall_mem_cons.mp registered
      rw [List.map_cons, pipeline, step.step_text here, List.foldlM_cons, ← Logged.lift_bind]
      congr 1
      funext next
      exact ih later next

end Filter

namespace Interpolation

variable (interpolation : Interpolation) (context : Entries)

/-- What is filled in for a written expression is what its head denotes, with the
segments of its pipeline applied. -/
theorem fill_pipelineTag (raw : Text) (tag : PipelineTag) {start : Except Fault Value}
    (denotes : PipelineHead.Denotes interpolation.helpers context tag.head start) :
    interpolation.fill context raw tag.expression =
      Logged.lift start >>= interpolation.finish (tag.filters.map FilterStep.text) := by
  have reserved : isReserved tag.expression = false := by
    obtain ⟨name, stop, rest, spelled, stops, noColon, notIf⟩ := tag.exists_expression_eq
    rw [spelled]
    exact isReserved_name_append stops noColon notIf
  rw [fill, reserved, if_neg Bool.false_ne_true, tag.split_expression]
  dsimp only
  cases head : tag.head with
  | named name notIf =>
      rw [head] at denotes
      cases denotes with
      | named defined =>
          have noDot : '.' ∉ name.text := fun member =>
            absurd (List.all_eq_true.mp name.wellFormed.2 '.' member) (by decide)
          have resolved : Entries.resolve name.text context = Entries.lookup name.text context :=
            if_neg noDot
          rw [PipelineHead.text, PipelineHead.ofText?_named, resolved]
          dsimp only
          split
          · next undefined => exact absurd undefined defined
          · rfl
  | call name arguments =>
      rw [head] at denotes
      cases denotes with
      | call registered =>
          rw [PipelineHead.ofText?_call]
          dsimp only
          rw [Helper.Call.evaluate, Registry.lookup_of_get? registered, arguments.arguments_raw]
          rfl

/-- A pass over a written tag gives the head through the filters, each function
with the arguments that stand between the quotes. -/
theorem pass_pipelineTag (tag : PipelineTag) {start : Except Fault Value}
    (denotes : PipelineHead.Denotes interpolation.helpers context tag.head start)
    (filterOf : Text → Function)
    (registered : ∀ step ∈ tag.filters,
      interpolation.filters.get? step.name.text = some (filterOf step.name.text)) :
    interpolation.pass context tag.text = Logged.lift (do
      let value ← start
      let result ← tag.filters.foldlM
        (fun value step => filterOf step.name.text (value :: step.arguments.values)) value
      result.display) := by
  have nonempty : tag.before.text ++ tag.expression ++ tag.after.text ≠ [] := by
    simp [tag.expression_ne_nil]
  have pieces : Tag.expressionTag.pieces tag.text =
      .token tag.text tag.expression :: Tag.expressionTag.pieces [] := by
    have found := Tag.pieces_expressionTag_tagged tag.isBraceFree_interior nonempty []
    rwa [List.append_nil, tag.expression_interior] at found
  have none : Tag.expressionTag.pieces [] = [] := by simp [Matcher.pieces]
  have finished : ∀ value : Value,
      interpolation.finish (tag.filters.map FilterStep.text) value =
        Logged.lift (tag.filters.foldlM
          (fun value step => filterOf step.name.text (value :: step.arguments.values)) value
            >>= Value.display) := by
    intro value
    rw [finish, Filter.pipeline_texts interpolation.filterPolicy registered, Logged.lift_bind]
  rw [pass, pieces, none, Logged.concat_singleton, fillPiece,
    interpolation.fill_pipelineTag context tag.text tag denotes, funext finished, Logged.lift_bind]

end Interpolation

namespace PipelineTag

/-- A tag that cuts a variable off and gives it an end of separators. -/
def truncated : PipelineTag where
  before := ⟨[' '], by decide⟩
  head := .named ⟨"greeting".toList, by decide⟩ (by decide)
  steps :=
    [(⟨[' '], by decide⟩, ⟨[' ', '\n'], by decide⟩, ⟨⟨"truncate".toList, by decide⟩,
      .some ⟨'\'', "5".toList, by decide, by decide⟩
        [(.none, ⟨[' '], by decide⟩, ⟨'"', "' |,:()".toList, by decide, by decide⟩)]⟩)]
  nonempty := by simp
  after := .none

end PipelineTag

/-- Separators between quotes are part of the argument. -/
theorem Interpolation.pass_truncated :
    PipelineTag.truncated.text =
        "\x7b\x7b greeting | \ntruncate:'5', \"' |,:()\"\x7d\x7d".toList ∧
      Interpolation.pass ⟨Filter.builtin, Helper.builtin, .silent, .silent, false, false⟩
          [(.text "greeting".toList, .text "Hello world".toList)] PipelineTag.truncated.text =
        Logged.lift (.ok "Hello' |,:()".toList) :=
  ⟨by decide,
    (Interpolation.pass_pipelineTag _ _ PipelineTag.truncated
      (.named (by decide)) (fun _ => Filter.truncate)
      (by
        intro step member
        cases List.mem_singleton.mp member
        rfl)).trans rfl⟩

end Stencil
