import Stencil.Proofs.Data.Plain

/-!
# The texts of plain values

Every plain value has a text, and no tag begins in it.  That the JSON form of a
mapping is such a text rests on its keys: a quotation mark or a closing brace
follows each of its opening braces.
-/

namespace Stencil

theorem intText_of_isShort {number : Int} (short : Value.isShort number = true) :
    intText number = .ok (Text.ofInt number) := by
  have small : number.natAbs < Nat.pow 10 maxDigits := by simpa [Value.isShort] using short
  rw [intText, if_pos small]

theorem Text.isInert_cons {char : Char} (notOpening : char ≠ '\x7b') {text : Text}
    (inert : isInert text = true) : isInert (char :: text) = true := by
  simp [isInert, notOpening, inert]

theorem Text.isInert_opening {text : Text} (inert : isInert text = true)
    (next : text.head?.any (· != '\x7b') = true) : isInert ('\x7b' :: text) = true := by
  rw [isInert, inert, next]
  rfl

namespace Json

/-- Whether writing ends with a text in which no tag begins. -/
def WritesInert (outcome : Except Fault Text) : Prop :=
  ∃ text, outcome = .ok text ∧ Text.isInert text = true

theorem writesInert_of_isBraceFree {text : Text} (free : Text.isBraceFree text = true) :
    WritesInert (.ok text) :=
  ⟨text, rfl, Text.isInert_of_isBraceFree free⟩

theorem writesInert_intText {number : Int} (short : Value.isShort number = true) :
    WritesInert (intText number) := by
  rw [intText_of_isShort short]
  exact writesInert_of_isBraceFree (Text.isBraceFree_ofInt number)

theorem writesInert_brackets {outcome : Except Fault Text} (content : WritesInert outcome) :
    WritesInert (do return '[' :: (← outcome) ++ [']']) := by
  obtain ⟨text, written, inert⟩ := content
  rw [written]
  refine ⟨'[' :: text ++ [']'], rfl, ?_⟩
  apply Text.isInert_append
  · exact Text.isInert_cons (by decide) inert
  · decide

theorem isInert_join {parts : List Text} (inert : ∀ part ∈ parts, Text.isInert part = true) :
    Text.isInert (Text.join [','] parts) = true := by
  induction parts with
  | nil => rfl
  | cons part parts ih =>
      have here := inert part List.mem_cons_self
      have later := ih fun other member => inert other (List.mem_cons_of_mem part member)
      cases parts with
      | nil => exact here
      | cons next parts =>
          apply Text.isInert_append _ later
          exact Text.isInert_append here (by decide)

theorem mapM_intText {numbers : List Int} (short : numbers.all Value.isShort = true) :
    numbers.mapM intText = .ok (numbers.map Text.ofInt) := by
  induction numbers with
  | nil => rfl
  | cons number numbers ih =>
      rw [List.all_cons, Bool.and_eq_true] at short
      rw [List.mapM_cons, intText_of_isShort short.1, ih short.2]
      rfl

/-- Entries are written as a text without tags that may follow an opening
brace. -/
def WritesEntries (outcome : Except Fault Text) : Prop :=
  ∃ text, outcome = .ok text ∧ Text.isInert text = true ∧
    ∀ char ∈ text.head?, char ≠ '\x7b'

theorem isInert_writeText {text : Text} (free : Text.isBraceFree text = true) :
    Text.isInert (writeText false text) = true :=
  Text.isInert_of_isBraceFree (isBraceFree_writeText false free)

theorem isInert_named {name text : Text} (free : Text.isBraceFree name = true)
    (inert : Text.isInert text = true) :
    Text.isInert (writeText false name ++ [':'] ++ text) = true := by
  apply Text.isInert_append _ inert
  exact Text.isInert_append (isInert_writeText free) (by decide)

mutual

/-- The JSON form of a plain value is a text in which no tag begins. -/
theorem writesInert_of_isPlain : ∀ value : Value, value.isPlain = true →
    WritesInert (write compact value)
  | .undefined => by simp [Value.isPlain]
  | .null => fun _ => writesInert_of_isBraceFree (by decide)
  | .bool true => fun _ => writesInert_of_isBraceFree (by decide)
  | .bool false => fun _ => writesInert_of_isBraceFree (by decide)
  | .int _ => fun plain => writesInert_intText plain
  | .float number => fun _ => writesInert_of_isBraceFree (isBraceFree_writeFloat number)
  | .nan _ => fun _ => writesInert_of_isBraceFree (by decide)
  | .text _ => fun plain => writesInert_of_isBraceFree (isBraceFree_writeText false plain)
  | .list _ items => by
      intro plain
      rw [Value.isPlain, Bool.and_eq_true] at plain
      exact writesInert_brackets (writesInert_of_arePlain items plain.2)
  | .tuple _ items => by
      intro plain
      rw [Value.isPlain, Bool.and_eq_true] at plain
      exact writesInert_brackets (writesInert_of_arePlain items plain.2)
  | .range _ start stop step => by
      intro plain
      rw [Value.isPlain, Bool.and_eq_true] at plain
      have parts : ∀ part ∈ (Value.rangeItems start stop step).map Text.ofInt,
          Text.isInert part = true := by
        intro part member
        obtain ⟨number, _, rfl⟩ := List.mem_map.mp member
        exact Text.isInert_of_isBraceFree (Text.isBraceFree_ofInt number)
      have content : WritesInert (do
          return Text.join [','] (← (Value.rangeItems start stop step).mapM intText)) := by
        rw [mapM_intText plain.2]
        exact ⟨_, rfl, isInert_join parts⟩
      have whole := writesInert_brackets content
      rw [mapM_intText plain.2] at whole
      rw [write, mapM_intText plain.2]
      exact whole
  | .map _ _ entries => by
      intro plain
      obtain ⟨text, written, inert, next⟩ := writesEntries_of_arePlain entries plain
      have lenient : ∀ readOnly : Bool, (readOnly && !compact.lenient) = false := by decide
      rw [write, written, lenient]
      refine ⟨'\x7b' :: text ++ ['\x7d'], rfl, ?_⟩
      apply Text.isInert_opening
      · exact Text.isInert_append inert (by decide)
      · cases text with
        | nil => decide
        | cons char text => simpa using next
  | .date _ date => fun _ =>
      writesInert_of_isBraceFree (isBraceFree_writeText false date.isBraceFree_text)
  | .timestamp _ stamp => fun _ =>
      writesInert_of_isBraceFree (isBraceFree_writeText false stamp.isBraceFree_text)
termination_by structural value => value

theorem writesInert_of_arePlain : ∀ items : List Value, Value.arePlain items = true →
    WritesInert (writeItems compact items)
  | [] => fun _ => ⟨[], rfl, rfl⟩
  | item :: items => by
      intro plain
      rw [Value.arePlain, Bool.and_eq_true] at plain
      obtain ⟨first, written, inert⟩ := writesInert_of_isPlain item plain.1
      obtain ⟨rest, later, restInert⟩ := writesInert_of_arePlain items plain.2
      cases items with
      | nil => exact ⟨first, written, inert⟩
      | cons next items =>
          rw [writeItems, written, later]
          refine ⟨first ++ [','] ++ rest, rfl, ?_⟩
          apply Text.isInert_append _ restInert
          exact Text.isInert_append inert (by decide)
termination_by structural items => items

theorem writesEntries_of_arePlain : ∀ entries : List (Value × Value),
    Value.arePlainEntries entries = true → WritesEntries (writeEntries compact entries)
  | [] => fun _ => ⟨[], rfl, rfl, by simp⟩
  | (key, value) :: entries => by
      intro plain
      obtain ⟨⟨word, named, _⟩, here, rest⟩ := Entries.isPlain_cons.mp plain
      subst named
      obtain ⟨text, written, inert⟩ := writesInert_of_isPlain value here
      obtain ⟨more, later, moreInert, _⟩ := writesEntries_of_arePlain entries rest
      have entry := isInert_named word.isBraceFree inert
      have first : ∀ char ∈ (writeText false word.text ++ [':'] ++ text).head?, char ≠ '\x7b' := by
        intro char first
        cases first
        decide
      cases entries with
      | nil =>
          rw [writeEntries, written]
          exact ⟨writeText false word.text ++ [':'] ++ text, rfl, entry, first⟩
      | cons next entries =>
          rw [writeEntries, written, later]
          refine ⟨writeText false word.text ++ [':'] ++ text ++ [','] ++ more, rfl, ?_, ?_⟩
          · apply Text.isInert_append _ moreInert
            exact Text.isInert_append entry (by decide)
          · intro char first
            cases first
            decide
termination_by structural entries => entries

end

end Json

namespace Value

/-- A plain value has a text in which no tag begins. -/
theorem display_of_isPlain {value : Value} (plain : value.isPlain = true) :
    ∃ text, value.display = .ok text ∧ Text.isInert text = true := by
  cases value with
  | undefined => simp [isPlain] at plain
  | null => exact ⟨[], rfl, rfl⟩
  | bool value =>
      cases value with
      | true => exact Json.writesInert_of_isBraceFree (by decide)
      | false => exact Json.writesInert_of_isBraceFree (by decide)
  | int number => exact Json.writesInert_intText plain
  | float number =>
      rw [display]
      cases number.toInt? with
      | some whole => exact Json.writesInert_of_isBraceFree (Text.isBraceFree_ofInt whole)
      | none => exact Json.writesInert_of_isBraceFree number.isBraceFree_text
  | nan identity => exact Json.writesInert_of_isBraceFree (by decide)
  | text content => exact Json.writesInert_of_isBraceFree plain
  | date identity date => exact Json.writesInert_of_isBraceFree date.isBraceFree_text
  | timestamp identity stamp => exact Json.writesInert_of_isBraceFree stamp.isBraceFree_text
  | list identity items => exact Json.writesInert_of_isPlain (.list identity items) plain
  | tuple identity items => exact Json.writesInert_of_isPlain (.tuple identity items) plain
  | range identity start stop step =>
      exact Json.writesInert_of_isPlain (.range identity start stop step) plain
  | map identity readOnly entries =>
      exact Json.writesInert_of_isPlain (.map identity readOnly entries) plain

/-- The text that a value is shown as; nothing if it has none. -/
def shown (value : Value) : Text.Inert :=
  match value.display with
  | .ok content => Text.Inert.ofText content
  | .error _ => Text.Inert.empty

theorem display_eq_shown {value : Value} (plain : value.isPlain = true) :
    value.display = .ok value.shown.text := by
  obtain ⟨content, displayed, inert⟩ := display_of_isPlain plain
  rw [shown, displayed, Text.Inert.text_ofText inert]

end Value

end Stencil
