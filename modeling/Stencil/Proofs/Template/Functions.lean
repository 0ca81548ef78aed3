import Stencil.Proofs.Data.BraceFree
import Stencil.Proofs.Template.Mentions
import Stencil.Proofs.Text.Case

/-!
# Functions that make no braces

The filters and helpers that every engine has take values without braces to
values without braces; of those that are registered later on it is asked.  The
parts of an expression without braces have none either, so that an expression
whose filters and helpers are all registered is filled in with a text in which
no tag begins, or fails at something else than an unknown name.
-/

namespace Stencil

namespace Text

theorem isBraceFree_of_subset {part text : Text} (inside : part ⊆ text)
    (free : isBraceFree text = true) : isBraceFree part = true :=
  isBraceFree_of_forall fun char member => isInner_of_mem free char (inside member)

theorem isBraceFree_trim {text : Text} (free : isBraceFree text = true) :
    isBraceFree (trim text) = true := by
  have inside := trim_infix text
  exact isBraceFree_of_subset inside.subset free

theorem isBraceFree_dropWhile (accepts : Char → Bool) {text : Text}
    (free : isBraceFree text = true) : isBraceFree (text.dropWhile accepts) = true :=
  isBraceFree_of_subset (List.dropWhile_sublist accepts).subset free

theorem isBraceFree_dropLast {text : Text} (free : isBraceFree text = true) :
    isBraceFree text.dropLast = true :=
  isBraceFree_of_subset (List.dropLast_sublist text).subset free

theorem isBraceFree_tail {text : Text} (free : isBraceFree text = true) :
    isBraceFree text.tail = true :=
  isBraceFree_of_subset (List.tail_sublist text).subset free

theorem isBraceFree_foldl {rewrite : Text → α → Text} {list : List α}
    (kept : ∀ member ∈ list, ∀ text, isBraceFree text = true →
      isBraceFree (rewrite text member) = true)
    {text : Text} (free : isBraceFree text = true) :
    isBraceFree (list.foldl rewrite text) = true := by
  induction list generalizing text with
  | nil => exact free
  | cons first later ih =>
      have here := kept first List.mem_cons_self text free
      exact ih (fun member among => kept member (List.mem_cons_of_mem first among)) here

theorem isBraceFree_replaceFirst (needle : Text) {replacement text : Text}
    (replacementFree : isBraceFree replacement = true) (free : isBraceFree text = true) :
    isBraceFree (replaceFirst needle replacement text) = true := by
  unfold replaceFirst
  split
  · next before rest found =>
      rw [eq_append_of_cut? found] at free
      simp only [isBraceFree_append, Bool.and_eq_true] at free
      simp only [isBraceFree_append, free.1.1, replacementFree, free.2, Bool.and_self]
  · exact free

end Text

/-- Whether a function takes values without braces to values without braces,
and fails at no unknown name. -/
def Function.KeepsBraceFree (function : Function) : Prop :=
  ∀ arguments : List Value, (∀ argument ∈ arguments, argument.isBraceFree = true) →
    Yields (fun value => value.isBraceFree = true) (function arguments)

/-- Whether all functions of a registry make no braces. -/
def Registry.KeepsBraceFree (registry : Registry) : Prop :=
  ∀ name function, registry.get? name = some function → function.KeepsBraceFree

theorem Registry.keepsBraceFree_of_forall {registry : Registry}
    (each : ∀ entry ∈ registry.functions, Function.KeepsBraceFree entry.2) :
    registry.KeepsBraceFree := by
  intro name function found
  obtain ⟨before, after, whole, _⟩ := List.lookup_eq_some_iff.mp found
  apply each (name, function)
  rw [whole]
  exact List.mem_append_right before List.mem_cons_self

theorem Moment.isBraceFree_format (moment : Moment) {format : Text}
    (free : Text.isBraceFree format = true) : Text.isBraceFree (moment.format format) = true := by
  refine Text.isBraceFree_foldl ?_ free
  intro token member text here
  apply Text.isBraceFree_replaceFirst _ _ here
  simp only [tokens, List.mem_cons, List.not_mem_nil, or_false] at member
  rcases member with rfl | rfl | rfl | rfl | rfl | rfl
  all_goals exact Text.isBraceFree_padded _ _

namespace Value

theorem yields_universal (stamp : Timestamp) : Yields (fun _ => True) (universal stamp) := by
  unfold universal
  split
  · exact .ok trivial
  · exact .error rfl

theorem yields_moment? (value : Value) : Yields (fun _ => True) value.moment? := by
  cases value with
  | timestamp identity stamp => exact yields_universal stamp
  | text content =>
      rw [moment?]
      split
      · exact yields_universal _
      · exact .ok trivial
  | _ => exact .ok trivial

theorem yields_formatMoment (moment : Moment) {format : Value}
    (free : format.isBraceFree = true) :
    Yields (fun text => Text.isBraceFree text = true) (formatMoment moment format) := by
  cases format with
  | text content => exact .ok (moment.isBraceFree_format free)
  | _ => exact .error rfl

end Value

namespace Filter

theorem isBraceFree_onText {function : Text → Text}
    (kept : ∀ text, Text.isBraceFree text = true → Text.isBraceFree (function text) = true)
    {value : Value} (free : value.isBraceFree = true) :
    (onText function value).isBraceFree = true := by
  cases value with
  | text content => exact kept content free
  | _ => exact free

theorem isBraceFree_escapeText {text : Text} (free : Text.isBraceFree text = true) :
    Text.isBraceFree (escapeText text) = true := by
  refine Text.isBraceFree_foldl ?_ free
  intro entity member text here
  have replaced : Text.isBraceFree entity.2 = true := by
    have all : entities.all (fun entity => Text.isBraceFree entity.2) = true := by decide
    exact List.all_eq_true.mp all entity member
  apply Text.isBraceFree_flatMap _ here
  intro char inner
  split
  · exact replaced
  · rw [Text.isBraceFree_cons, inner]
    rfl

theorem yields_formatted {value format : Value} (free : value.isBraceFree = true)
    (formatFree : format.isBraceFree = true) :
    Yields (fun value => value.isBraceFree = true) (formatted value format) := by
  apply (Value.yields_moment? value).bind
  intro moment _
  cases moment with
  | none => exact .ok free
  | some moment => exact (Value.yields_formatMoment moment formatFree).bind fun _ text => .ok text

theorem yields_dateWith {value format : Value} (free : value.isBraceFree = true)
    (formatFree : format.isBraceFree = true) :
    Yields (fun value => value.isBraceFree = true) (dateWith value format) := by
  unfold dateWith
  split
  · exact .ok free
  · exact yields_formatted free formatFree

theorem yields_limit? (length : Value) : Yields (fun _ => True) (limit? length) := by
  cases length with
  | float number =>
      rw [limit?]
      split
      · exact .ok trivial
      · exact .error rfl
  | _ => exact .ok trivial

theorem yields_truncateWith {value suffix : Value} (length : Value)
    (free : value.isBraceFree = true) (suffixFree : suffix.isBraceFree = true) :
    Yields (fun value => value.isBraceFree = true) (truncateWith value length suffix) := by
  cases value with
  | text content =>
      apply (yields_limit? length).bind
      intro limit _
      cases limit with
      | none => exact .ok free
      | some limit =>
          dsimp only
          split
          · cases suffix with
            | text more =>
                have cut : Text.isBraceFree (content.take limit.toNat ++ more) = true := by
                  rw [Text.isBraceFree_append, Text.isBraceFree_take free, Bool.true_and]
                  exact suffixFree
                exact .ok cut
            | _ => exact .error rfl
          · exact .ok free
  | _ => exact .ok free

theorem escape_keepsBraceFree : Function.KeepsBraceFree escape := by
  intro arguments free
  unfold escape
  split
  · exact .ok (isBraceFree_onText (fun _ => isBraceFree_escapeText) (free _ List.mem_cons_self))
  · exact .error rfl

theorem upper_keepsBraceFree : Function.KeepsBraceFree upper := by
  intro arguments free
  unfold upper
  split
  · exact .ok (isBraceFree_onText (fun _ => Text.isBraceFree_upper) (free _ List.mem_cons_self))
  · exact .error rfl

theorem lower_keepsBraceFree : Function.KeepsBraceFree lower := by
  intro arguments free
  unfold lower
  split
  · exact .ok (isBraceFree_onText (fun _ => Text.isBraceFree_lower) (free _ List.mem_cons_self))
  · exact .error rfl

theorem capitalize_keepsBraceFree : Function.KeepsBraceFree capitalize := by
  intro arguments free
  unfold capitalize
  split
  · exact .ok
      (isBraceFree_onText (fun _ => Text.isBraceFree_capitalize) (free _ List.mem_cons_self))
  · exact .error rfl

theorem date_keepsBraceFree : Function.KeepsBraceFree date := by
  intro arguments free
  unfold date
  split
  · exact yields_dateWith (free _ List.mem_cons_self) (by decide)
  · exact yields_dateWith (free _ (by simp)) (free _ (by simp))
  · exact .error rfl

theorem truncate_keepsBraceFree : Function.KeepsBraceFree truncate := by
  intro arguments free
  unfold truncate
  split
  · exact yields_truncateWith _ (free _ List.mem_cons_self) (by decide)
  · exact yields_truncateWith _ (free _ (by simp)) (by decide)
  · exact yields_truncateWith _ (free _ (by simp)) (free _ (by simp))
  · exact .error rfl

/-- The filters that every engine has make no braces. -/
theorem builtin_keepsBraceFree : builtin.KeepsBraceFree := by
  apply Registry.keepsBraceFree_of_forall
  intro entry member
  simp only [builtin, List.mem_cons, List.not_mem_nil, or_false] at member
  rcases member with rfl | rfl | rfl | rfl | rfl | rfl
  · exact escape_keepsBraceFree
  · exact upper_keepsBraceFree
  · exact lower_keepsBraceFree
  · exact capitalize_keepsBraceFree
  · exact date_keepsBraceFree
  · exact truncate_keepsBraceFree

end Filter

namespace Helper

theorem yields_formatDateWith {value format : Value} (free : value.isBraceFree = true)
    (formatFree : format.isBraceFree = true) :
    Yields (fun value => value.isBraceFree = true) (formatDateWith value format) := by
  unfold formatDateWith
  split
  · exact .ok rfl
  · exact Filter.yields_formatted free formatFree

theorem formatDate_keepsBraceFree : Function.KeepsBraceFree formatDate := by
  intro arguments free
  unfold formatDate
  split
  · exact yields_formatDateWith rfl (by decide)
  · exact yields_formatDateWith (free _ List.mem_cons_self) (by decide)
  · exact yields_formatDateWith (free _ (by simp)) (free _ (by simp))
  · exact .error rfl

theorem yields_number? (value : Value) : Yields (fun _ => True) (number? value) := by
  unfold number?
  split
  · split
    · exact .ok trivial
    · exact .ok trivial
  · exact Value.yields_toBinary64 value

theorem isEven_keepsBraceFree : Function.KeepsBraceFree isEven := by
  intro arguments free
  unfold isEven
  split
  · apply (yields_number? _).bind
    intro number _
    cases number with
    | some number => exact .ok rfl
    | none => exact .ok rfl
  · exact .error rfl

theorem count_keepsBraceFree : Function.KeepsBraceFree count := by
  intro arguments free
  unfold count
  split
  · exact .ok rfl
  · exact .ok rfl
  · dsimp only
    split
    · exact .ok rfl
    · exact .error rfl
  · exact .ok rfl
  · exact .error rfl

/-- The helpers that every engine has make no braces. -/
theorem builtin_keepsBraceFree : builtin.KeepsBraceFree := by
  apply Registry.keepsBraceFree_of_forall
  intro entry member
  simp only [builtin, List.mem_cons, List.not_mem_nil, or_false] at member
  rcases member with rfl | rfl | rfl
  · exact formatDate_keepsBraceFree
  · exact isEven_keepsBraceFree
  · exact count_keepsBraceFree

end Helper

namespace Arguments

theorem isBraceFree_split (delimiter : Text) {text : Text} (free : Text.isBraceFree text = true) :
    ∀ part ∈ split delimiter text, Text.isBraceFree part = true :=
  fun part member => Text.isBraceFree_of_subset (infix_split delimiter text part member).subset free

theorem isBraceFree_unquote {part : Text} (free : Text.isBraceFree part = true) :
    Text.isBraceFree (unquote part) = true := by
  unfold unquote
  split
  · exact Text.isBraceFree_dropLast (Text.isBraceFree_tail free)
  · exact free

theorem isBraceFree_parse {raw : Text} (free : Text.isBraceFree raw = true) :
    ∀ argument ∈ parse raw, Text.isBraceFree argument = true := by
  intro argument member
  obtain ⟨part, among, rfl⟩ := List.mem_map.mp member
  exact isBraceFree_unquote (isBraceFree_split _ free part among)

end Arguments

/-- Whether a policy makes an unknown name a fault. -/
def Policy.isStrict (policy : Policy) : Bool :=
  policy = .strict

theorem Registry.outcome_lookup (registry : Registry) (name : Text) (policy : Policy) :
    (registry.lookup name policy).outcome =
      match registry.get? name with
      | some function => .ok (some function)
      | none =>
          if policy.isStrict then .error (.unknownName registry.kind name) else .ok none := by
  unfold lookup
  cases registry.get? name with
  | some function => rfl
  | none => cases policy <;> rfl

theorem Registry.exists_outcome_lookup {registry : Registry} (keeps : registry.KeepsBraceFree)
    {name : Text} (registered : (registry.get? name).isSome = true) (policy : Policy) :
    ∃ function : Function, function.KeepsBraceFree ∧
      (registry.lookup name policy).outcome = .ok (some function) := by
  obtain ⟨function, found⟩ := Option.isSome_iff_exists.mp registered
  refine ⟨function, keeps name function found, ?_⟩
  rw [outcome_lookup, found]

namespace Filter

/-- Whether the filter that a segment of a pipeline names is registered, if it
names one. -/
def isRegistered (registry : Registry) (text : Text) : Bool :=
  (Segment.ofText? text).all fun segment => (registry.get? segment.name).isSome

theorem Segment.isBraceFree_arguments {text : Text} (free : Text.isBraceFree text = true)
    {segment : Segment} (found : ofText? text = some segment) :
    ∀ argument ∈ segment.arguments, Text.isBraceFree argument = true := by
  unfold ofText? at found
  dsimp only at found
  split at found
  · exact absurd found (by simp)
  · split at found
    · cases found
      simp
    · next raw rest =>
        cases found
        have after := Text.isBraceFree_dropWhile Text.isNameChar (Text.isBraceFree_trim free)
        rw [rest, Text.isBraceFree_cons, Bool.and_eq_true] at after
        exact Arguments.isBraceFree_parse after.2
    · exact absurd found (by simp)

theorem yields_step {registry : Registry} (keeps : registry.KeepsBraceFree) (policy : Policy)
    {text : Text} (free : Text.isBraceFree text = true)
    (registered : isRegistered registry text = true) {value : Value}
    (clean : value.isBraceFree = true) :
    Yields (fun value => value.isBraceFree = true) (step registry policy value text).outcome := by
  unfold step
  unfold isRegistered at registered
  split
  · exact .ok clean
  · next segment found =>
      rw [found] at registered
      obtain ⟨function, kept, looked⟩ := Registry.exists_outcome_lookup keeps registered policy
      rw [Logged.outcome_bind, looked]
      apply kept
      intro argument member
      rcases List.mem_cons.mp member with rfl | inside
      · exact clean
      · obtain ⟨content, among, rfl⟩ := List.mem_map.mp inside
        exact Segment.isBraceFree_arguments free found content among

theorem yields_pipeline {registry : Registry} (keeps : registry.KeepsBraceFree) (policy : Policy)
    {segments : List Text} (free : ∀ segment ∈ segments, Text.isBraceFree segment = true)
    (registered : segments.all (isRegistered registry) = true) {value : Value}
    (clean : value.isBraceFree = true) :
    Yields (fun value => value.isBraceFree = true)
      (pipeline registry policy segments value).outcome := by
  induction segments generalizing value with
  | nil => exact .ok clean
  | cons segment segments ih =>
      rw [List.all_cons, Bool.and_eq_true] at registered
      rw [pipeline, Logged.outcome_bind]
      apply (yields_step keeps policy (free segment List.mem_cons_self) registered.1 clean).bind
      intro next here
      exact ih (fun other member => free other (List.mem_cons_of_mem segment member))
        registered.2 here

end Filter

namespace Helper.Call

/-- Whether the helper that an expression calls is registered, if it calls
one. -/
def isRegistered (registry : Registry) (text : Text) : Bool :=
  (ofText? text).all fun call => (registry.get? call.name).isSome

theorem isBraceFree_raw {text : Text} (free : Text.isBraceFree text = true) {call : Call}
    (found : ofText? text = some call) : Text.isBraceFree call.raw = true :=
  Text.isBraceFree_of_subset (infix_raw found).subset free

theorem isBraceFree_argument {context : Entries} (contextFree : context.IsBraceFree) {text : Text}
    (free : Text.isBraceFree text = true) : (argument context text).isBraceFree = true := by
  unfold argument
  split
  · exact Arguments.isBraceFree_unquote free
  · split
    · exact free
    · exact Entries.isBraceFree_resolve contextFree text

theorem yields_evaluate {registry : Registry} (keeps : registry.KeepsBraceFree) (policy : Policy)
    {context : Entries} (contextFree : context.IsBraceFree) {call : Call}
    (free : Text.isBraceFree call.raw = true)
    (registered : (registry.get? call.name).isSome = true) :
    Yields (fun value => value.isBraceFree = true)
      (call.evaluate registry policy context).outcome := by
  obtain ⟨function, kept, looked⟩ := Registry.exists_outcome_lookup keeps registered policy
  rw [evaluate, Logged.outcome_bind, looked]
  apply kept
  intro value member
  obtain ⟨part, among, rfl⟩ := List.mem_map.mp member
  exact isBraceFree_argument contextFree (Arguments.isBraceFree_split _ free part among)

end Helper.Call

namespace Interpolation

variable (interpolation : Interpolation)

/-- Whether all filters and helpers that an expression names are registered.
What belongs to a block tag or an include tag names none. -/
def isFamiliar (expression : Text) : Bool :=
  isReserved expression ||
    (Helper.Call.isRegistered interpolation.helpers (split expression).1
      && (split expression).2.all (Filter.isRegistered interpolation.filters))

/-- Whether neither filters nor helpers make braces. -/
structure KeepsBraceFree : Prop where
  filters : interpolation.filters.KeepsBraceFree
  helpers : interpolation.helpers.KeepsBraceFree

theorem isBraceFree_split {expression : Text} (free : Text.isBraceFree expression = true) :
    Text.isBraceFree (split expression).1 = true ∧
      ∀ segment ∈ (split expression).2, Text.isBraceFree segment = true := by
  have parts := Arguments.isBraceFree_split ['|'] free
  unfold split
  split
  · next head segments found =>
      rw [found] at parts
      exact ⟨parts head List.mem_cons_self,
        fun segment member => parts segment (List.mem_cons_of_mem head member)⟩
  · exact ⟨free, by simp⟩

variable {interpolation}

theorem yields_finish (keeps : interpolation.KeepsBraceFree) {segments : List Text}
    (free : ∀ segment ∈ segments, Text.isBraceFree segment = true)
    (registered : segments.all (Filter.isRegistered interpolation.filters) = true) {value : Value}
    (clean : value.isBraceFree = true) :
    Yields (fun text => Text.isInert text = true) (interpolation.finish segments value).outcome := by
  rw [finish, Logged.outcome_bind]
  apply (Filter.yields_pipeline keeps.filters _ free registered clean).bind
  intro result here
  exact (Value.yields_display result).imp fun _ clear => clear here

theorem outcome_fillUndefined (raw name : Text) :
    (interpolation.fillUndefined raw name).outcome =
      .ok (if interpolation.preserveUndefined then raw else []) := by
  rw [fillUndefined]
  cases interpolation.showWarnings <;> rfl

/-- A tag whose filters and helpers are registered stays as it is, or becomes a
text in which no tag begins. -/
theorem yields_fill (keeps : interpolation.KeepsBraceFree) {context : Entries}
    (contextFree : context.IsBraceFree) (raw : Text) {expression : Text}
    (free : Text.isBraceFree expression = true)
    (familiar : interpolation.isFamiliar expression = true) :
    Yields (fun text => text = raw ∨ Text.isInert text = true)
      (interpolation.fill context raw expression).outcome := by
  unfold fill
  split
  · exact .ok (.inl rfl)
  · next open_ =>
      obtain ⟨headFree, segmentsFree⟩ := isBraceFree_split free
      simp only [isFamiliar, open_, Bool.false_or, Bool.and_eq_true] at familiar
      obtain ⟨helper, filters⟩ := familiar
      dsimp only
      split
      · next call found =>
          rw [Helper.Call.isRegistered, found] at helper
          have rawFree := Helper.Call.isBraceFree_raw headFree found
          rw [Logged.outcome_bind]
          apply (Helper.Call.yields_evaluate keeps.helpers _ contextFree rawFree helper).bind
          intro value clean
          exact (yields_finish keeps segmentsFree filters clean).imp fun _ inert => .inr inert
      · split
        · rw [outcome_fillUndefined]
          split
          · exact .ok (.inl rfl)
          · exact .ok (.inr rfl)
        · have clean := Entries.isBraceFree_resolve contextFree (split expression).1
          exact (yields_finish keeps segmentsFree filters clean).imp fun _ inert => .inr inert

end Interpolation

end Stencil
