import Stencil.Proofs.Template.Cuts
import Stencil.Template.Helper

/-!
# Quoted arguments

A list of arguments between quotes is cut at its commas, and each part is trimmed
and stripped of its quotes.  Since a quoted text is passed by every cut, what
stands between the quotes comes through as it was written, whatever it is: the
values that a filter or a helper receives are the contents of the list.
-/

namespace Stencil

/-- A text of blank characters. -/
structure Blanks where
  text : Text
  wellFormed : text.all Text.isBlank = true

/-- A name that a function can have. -/
structure FunctionName where
  text : Text
  wellFormed : text ≠ [] ∧ text.all Text.isNameChar = true

/-- An argument between quotes; the quotes do not occur in it, and neither do
braces. -/
structure QuotedText where
  quote : Char
  content : Text
  isQuote : Arguments.isQuote quote = true
  wellFormed : quote ∉ content ∧ Text.isBraceFree content = true


namespace Blanks

def none : Blanks := ⟨[], rfl⟩

variable (blanks : Blanks)

theorem blank : ∀ char ∈ blanks.text, Text.isBlank char = true :=
  List.all_eq_true.mp blanks.wellFormed

theorem isBraceFree : Text.isBraceFree blanks.text = true := by
  apply Text.isBraceFree_of_forall
  intro char member
  have blank := blanks.blank char member
  exact Text.isInner_iff.mpr
    ⟨Text.ne_of_isBlank blank (by decide), Text.ne_of_isBlank blank (by decide)⟩

theorem closed {delimiter : Char} (solid : Text.isBlank delimiter = false) :
    Arguments.Closed delimiter blanks.text := by
  apply Arguments.closed_plain
  intro char member
  have blank := blanks.blank char member
  refine ⟨?_, Text.ne_of_isBlank blank solid⟩
  have noDouble : char ≠ '"' := Text.ne_of_isBlank blank (by decide)
  have noSingle : char ≠ '\'' := Text.ne_of_isBlank blank (by decide)
  simp [Arguments.isQuote, noDouble, noSingle]

end Blanks

namespace FunctionName

variable (name : FunctionName)

theorem isPathChar : name.text.all Text.isPathChar = true := by
  apply List.all_eq_true.mpr
  intro char member
  exact Text.isPathChar_of_isNameChar (List.all_eq_true.mp name.wellFormed.2 char member)

theorem isBraceFree : Text.isBraceFree name.text = true :=
  Text.isBraceFree_of_isPathChar name.isPathChar

theorem closed {delimiter : Char} (separator : delimiter ∈ Text.separators) :
    Arguments.Closed delimiter name.text :=
  Arguments.closed_path name.isPathChar separator

theorem takeWhile_append {rest : Text} (stops : ∀ char ∈ rest.head?, Text.isNameChar char = false) :
    (name.text ++ rest).takeWhile Text.isNameChar = name.text :=
  Text.takeWhile_append_of_stop name.wellFormed.2 stops

theorem dropWhile_append {rest : Text} (stops : ∀ char ∈ rest.head?, Text.isNameChar char = false) :
    (name.text ++ rest).dropWhile Text.isNameChar = rest :=
  Text.dropWhile_append_of_stop name.wellFormed.2 stops

end FunctionName

namespace QuotedText

variable (argument : QuotedText)

def text : Text :=
  argument.quote :: (argument.content ++ [argument.quote])

theorem stretches_content (delimiter : Char) {quote : Char} {content : Text}
    (absent : quote ∉ content) (rest : Text) :
    Arguments.stretches [delimiter] (some quote) (content ++ quote :: rest) =
      (content ++ quote :: (Arguments.stretches [delimiter] none rest).1,
        (Arguments.stretches [delimiter] none rest).2) := by
  induction content with
  | nil => simp [Arguments.stretches, Arguments.push]
  | cons char content ih =>
      have differs : char ≠ quote := by
        rintro rfl
        exact absent List.mem_cons_self
      have later := ih fun member => absent (List.mem_cons_of_mem char member)
      simp [Arguments.stretches, differs, later, Arguments.push]

theorem closed (delimiter : Char) : Arguments.Closed delimiter argument.text := by
  intro rest
  have content := stretches_content delimiter argument.wellFormed.1 rest
  simp [text, Arguments.stretches, argument.isQuote, content, Arguments.push]

theorem isQuoted : Arguments.isQuoted argument.text = true :=
  Arguments.isQuoted_between argument.isQuote argument.content

theorem unquote_eq : Arguments.unquote argument.text = argument.content :=
  Arguments.unquote_between argument.isQuote argument.content

theorem isBlank_quote : Text.isBlank argument.quote = false :=
  Arguments.isBlank_of_isQuote argument.isQuote

end QuotedText


namespace Arguments

/-- Whether a text comes back as it is from a list of texts that is cut at a
delimiter. -/
structure Whole (delimiter : Char) (text : Text) : Prop where
  nonempty : text ≠ []
  first : ∀ char ∈ text.head?, Text.isBlank char = false
  last : ∀ char ∈ text.getLast?, Text.isBlank char = false
  closed : Closed delimiter text

/-- Texts with a delimiter between them and blank characters around it. -/
def separated (delimiter : Char) (first : Text) (later : List (Blanks × Blanks × Text)) : Text :=
  first ++ later.flatMap fun (before, after, text) =>
    before.text ++ delimiter :: (after.text ++ text)

variable {delimiter : Char}

/-- A list of texts is cut into these texts. -/
theorem split_separated (noQuote : isQuote delimiter = false)
    (solid : Text.isBlank delimiter = false) (blanks : Blanks) {first : Text}
    (whole : Whole delimiter first) (later : List (Blanks × Blanks × Text))
    (others : ∀ part ∈ later, Whole delimiter part.2.2) :
    split [delimiter] (blanks.text ++ separated delimiter first later) =
      first :: later.map fun part => part.2.2 := by
  induction later generalizing blanks first with
  | nil =>
      have trimmed : Text.trim (blanks.text ++ first) = first := by
        have between := Text.trim_between whole.nonempty whole.first whole.last blanks.blank
          Blanks.none.blank
        rwa [Blanks.none, List.append_nil] at between
      have closed := closed_append (blanks.closed solid) whole.closed
      have alone := split_eq_singleton closed (by rw [trimmed]; exact whole.nonempty)
      rw [trimmed] at alone
      simpa [separated] using alone
  | cons part later ih =>
      obtain ⟨before, after, text⟩ := part
      obtain ⟨next, rest⟩ := List.forall_mem_cons.mp others
      have closed := closed_append (closed_append (blanks.closed solid) whole.closed)
        (before.closed solid)
      have trimmed : Text.trim (blanks.text ++ first ++ before.text) = first :=
        Text.trim_between whole.nonempty whole.first whole.last blanks.blank before.blank
      have spelled : blanks.text ++ separated delimiter first ((before, after, text) :: later) =
          blanks.text ++ first ++ before.text ++
            delimiter :: (after.text ++ separated delimiter text later) := by
        simp [separated]
      rw [spelled, split_append_cons closed noQuote, trimmed, ih after next rest]
      rfl

theorem closed_separated (solid : Text.isBlank delimiter = false) {other : Char}
    (noQuote : isQuote other = false) (differs : other ≠ delimiter) {first : Text}
    (closed : Closed delimiter first) (later : List (Blanks × Blanks × Text))
    (others : ∀ part ∈ later, Closed delimiter part.2.2) :
    Closed delimiter (separated other first later) := by
  apply closed_append closed
  induction later with
  | nil => exact closed_nil
  | cons part later ih =>
      obtain ⟨before, after, text⟩ := part
      obtain ⟨next, rest⟩ := List.forall_mem_cons.mp others
      have here : Closed delimiter (before.text ++ other :: (after.text ++ text)) :=
        closed_append (before.closed solid) (closed_append (closed_singleton noQuote differs)
          (closed_append (after.closed solid) next))
      exact closed_append here (ih rest)

theorem isBraceFree_separated (inner : Tag.isInner delimiter = true) {first : Text}
    (free : Text.isBraceFree first = true) (later : List (Blanks × Blanks × Text))
    (others : ∀ part ∈ later, Text.isBraceFree part.2.2 = true) :
    Text.isBraceFree (separated delimiter first later) = true := by
  rw [separated, Text.isBraceFree_append, free, Bool.true_and]
  induction later with
  | nil => rfl
  | cons part later ih =>
      obtain ⟨before, after, text⟩ := part
      obtain ⟨next, rest⟩ := List.forall_mem_cons.mp others
      rw [List.flatMap_cons, Text.isBraceFree_append, ih rest]
      simp [before.isBraceFree, after.isBraceFree, inner, next]

theorem getLast?_separated {first : Text} (whole : Whole delimiter first)
    (later : List (Blanks × Blanks × Text))
    (others : ∀ part ∈ later, Whole delimiter part.2.2) :
    ∀ char ∈ (separated delimiter first later).getLast?, Text.isBlank char = false := by
  induction later generalizing first with
  | nil =>
      simpa [separated] using whole.last
  | cons part later ih =>
      obtain ⟨before, after, text⟩ := part
      obtain ⟨next, rest⟩ := List.forall_mem_cons.mp others
      have spelled : separated delimiter first ((before, after, text) :: later) =
          (first ++ before.text ++ delimiter :: after.text) ++ separated delimiter text later := by
        simp [separated]
      have nonempty : separated delimiter text later ≠ [] :=
        List.append_ne_nil_of_left_ne_nil next.nonempty _
      rw [spelled, List.getLast?_append_of_ne_nil _ nonempty]
      exact ih next rest

end Arguments

namespace QuotedText

variable (argument : QuotedText)

theorem whole (delimiter : Char) : Arguments.Whole delimiter argument.text where
  nonempty := List.cons_ne_nil _ _
  first := by
    intro char first
    cases first
    exact argument.isBlank_quote
  last := by
    intro char last
    rw [text, ← List.cons_append, List.getLast?_concat] at last
    cases last
    exact argument.isBlank_quote
  closed := argument.closed delimiter

theorem isBraceFree : Text.isBraceFree argument.text = true := by
  have quote : Tag.isInner argument.quote = true := by
    rcases Arguments.eq_of_isQuote argument.isQuote with same | same
    · rw [same]
      decide
    · rw [same]
      decide
  have last : Text.isBraceFree [argument.quote] = true := by
    rw [Text.isBraceFree_cons, quote]
    rfl
  rw [text, Text.isBraceFree_cons, Text.isBraceFree_append, quote, argument.wellFormed.2, last]
  rfl

end QuotedText

/-- Arguments between quotes, with commas between them and blank characters
around these. -/
inductive ArgumentList where
  | none
  | some (first : QuotedText) (later : List (Blanks × Blanks × QuotedText))

namespace ArgumentList

def raw : ArgumentList → Text
  | none => []
  | some first later =>
      Arguments.separated ',' first.text
        (later.map fun (before, after, argument) => (before, after, argument.text))

/-- What is written behind the name of a filter. -/
def suffix : ArgumentList → Text
  | none => []
  | some first later => ':' :: raw (some first later)

def arguments : ArgumentList → List QuotedText
  | none => []
  | some first later => first :: later.map fun (_, _, argument) => argument

/-- The values that the arguments stand for. -/
def values (list : ArgumentList) : List Value :=
  list.arguments.map fun argument => .text argument.content

variable (list : ArgumentList)

theorem forall_written (holds : Text → Prop) (each : ∀ argument : QuotedText, holds argument.text)
    (later : List (Blanks × Blanks × QuotedText)) :
    ∀ part ∈ later.map fun (before, after, argument) => (before, after, argument.text),
      holds part.2.2 := by
  intro part member
  obtain ⟨⟨_, _, argument⟩, _, rfl⟩ := List.mem_map.mp member
  exact each argument

theorem split_raw : Arguments.split [','] list.raw = list.arguments.map QuotedText.text := by
  cases list with
  | none => rfl
  | some first later =>
      have cut : Arguments.split [','] (Blanks.none.text ++ raw (some first later)) = _ :=
        Arguments.split_separated (by decide) (by decide) .none (first.whole ',') _
          (forall_written _ (fun argument => argument.whole ',') later)
      rw [raw]
      refine cut.trans ?_
      simp [arguments, Function.comp_def]

theorem parse_raw : (Arguments.parse list.raw).map Value.text = list.values := by
  rw [Arguments.parse, list.split_raw, values, List.map_map, List.map_map]
  apply List.map_congr_left
  intro argument _
  rw [Function.comp_apply, Function.comp_apply, argument.unquote_eq]

theorem arguments_raw (context : Entries) : Helper.Call.arguments list.raw context = list.values := by
  rw [Helper.Call.arguments, list.split_raw, values, List.map_map]
  apply List.map_congr_left
  intro argument _
  rw [Function.comp_apply, Helper.Call.argument, if_pos argument.isQuoted, argument.unquote_eq]

theorem closed_raw : Arguments.Closed '|' list.raw := by
  cases list with
  | none => exact Arguments.closed_nil
  | some first later =>
      exact Arguments.closed_separated (by decide) (by decide) (by decide) (first.closed '|') _
        (forall_written _ (fun argument => argument.closed '|') later)

theorem isBraceFree_raw : Text.isBraceFree list.raw = true := by
  cases list with
  | none => rfl
  | some first later =>
      exact Arguments.isBraceFree_separated (by decide) first.isBraceFree _
        (forall_written (fun text => Text.isBraceFree text = true)
          (fun argument => argument.isBraceFree) later)

theorem getLast?_raw : ∀ char ∈ list.raw.getLast?, Text.isBlank char = false := by
  cases list with
  | none => simp [raw]
  | some first later =>
      exact Arguments.getLast?_separated (first.whole ',') _
        (forall_written _ (fun argument => argument.whole ',') later)

end ArgumentList

end Stencil
