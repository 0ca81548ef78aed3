import Stencil.Proofs.Data.Shown
import Stencil.Template.Condition

/-!
# Data without braces

Data in which no text and no name of a key has a brace.  Whatever a path or a
loop leads to from such data is without braces again, and its text, if it has
one, begins no tag.  No value fails to be written, named or compared for want
of a filter or a helper.
-/

namespace Stencil

def Fault.isUnknownName : Fault → Bool
  | .unknownName .. => true
  | _ => false

/-- A computation ends with a value as it should be, or fails, but at no unknown
name. -/
inductive Yields (good : α → Prop) : Except Fault α → Prop where
  | ok {value : α} (fine : good value) : Yields good (.ok value)
  | error {fault : Fault} (familiar : fault.isUnknownName = false) : Yields good (.error fault)

namespace Yields

variable {good : α → Prop} {fine : β → Prop}

theorem of_ok {value : α} (yields : Yields good (.ok value)) : good value := by
  cases yields with
  | ok fine => exact fine

theorem imp {other : α → Prop} {outcome : Except Fault α} (yields : Yields good outcome)
    (implies : ∀ value, good value → other value) : Yields other outcome := by
  cases yields with
  | ok here => exact .ok (implies _ here)
  | error familiar => exact .error familiar

theorem bind {outcome : Except Fault α} {next : α → Except Fault β} (first : Yields good outcome)
    (later : ∀ value, good value → Yields fine (next value)) :
    Yields fine (outcome >>= next) := by
  cases first with
  | ok here => exact later _ here
  | error familiar => exact .error familiar

theorem map {outcome : Except Fault α} {change : α → β} (yields : Yields good outcome)
    (implies : ∀ value, good value → fine (change value)) :
    Yields fine (outcome.map change) := by
  cases yields with
  | ok here => exact .ok (implies _ here)
  | error familiar => exact .error familiar

theorem mapM {compute : α → Except Fault β} {list : List α}
    (each : ∀ member ∈ list, Yields fine (compute member)) :
    Yields (fun results => ∀ result ∈ results, fine result) (list.mapM compute) := by
  induction list with
  | nil => exact .ok fun result member => absurd member List.not_mem_nil
  | cons first later ih =>
      rw [List.mapM_cons]
      apply bind (each first List.mem_cons_self)
      intro result here
      apply bind (ih fun member among => each member (List.mem_cons_of_mem first among))
      intro results rest
      apply ok
      intro other member
      rcases List.mem_cons.mp member with rfl | inside
      · exact here
      · exact rest other inside

theorem ne_unknownName {outcome : Except Fault α} (yields : Yields good outcome) (kind : Callable)
    (name : Text) : outcome ≠ .error (.unknownName kind name) := by
  rintro rfl
  cases yields with
  | error familiar => exact absurd familiar (by simp [Fault.isUnknownName])

end Yields

/-- Whether the text that names a value in a placeholder, if there is one, has
no brace. -/
def Value.isNamedBraceFree (key : Value) : Bool :=
  match key.name with
  | .ok name => Text.isBraceFree name
  | .error _ => true

mutual

/-- Whether no text in a value has a brace. -/
def Value.isBraceFree : Value → Bool
  | .text content => Text.isBraceFree content
  | .list _ items | .tuple _ items => Value.areBraceFree items
  | .map _ _ entries => Value.areBraceFreeEntries entries
  | _ => true
termination_by structural value => value

def Value.areBraceFree : List Value → Bool
  | [] => true
  | item :: items => Value.isBraceFree item && Value.areBraceFree items
termination_by structural items => items

def Value.areBraceFreeEntries : List (Value × Value) → Bool
  | [] => true
  | (key, value) :: entries =>
      key.isNamedBraceFree && Value.isBraceFree key && Value.isBraceFree value
        && Value.areBraceFreeEntries entries
termination_by structural entries => entries

end

def Entries.IsBraceFree (entries : Entries) : Prop :=
  Value.areBraceFreeEntries entries = true

instance (entries : Entries) : Decidable entries.IsBraceFree :=
  inferInstanceAs (Decidable (_ = true))

namespace Value

theorem areBraceFree_iff {items : List Value} :
    areBraceFree items = true ↔ ∀ item ∈ items, item.isBraceFree = true := by
  induction items with
  | nil => simp [areBraceFree]
  | cons item items ih => simp [areBraceFree, ih]

theorem isBraceFree_items {value : Value} (free : value.isBraceFree = true) {items : List Value}
    (has : value.items? = some items) : ∀ item ∈ items, item.isBraceFree = true := by
  cases value with
  | list identity members =>
      cases has
      exact areBraceFree_iff.mp free
  | tuple identity members =>
      cases has
      exact areBraceFree_iff.mp free
  | range identity start stop step =>
      cases has
      intro item member
      obtain ⟨number, _, rfl⟩ := List.mem_map.mp member
      rfl
  | _ => exact absurd has (by simp [items?])

end Value

namespace Entries

theorem isBraceFree_nil : IsBraceFree [] := rfl

theorem isBraceFree_cons {key value : Value} {entries : Entries} :
    IsBraceFree ((key, value) :: entries) ↔
      (key.isNamedBraceFree = true ∧ key.isBraceFree = true) ∧
        value.isBraceFree = true ∧ IsBraceFree entries := by
  simp [IsBraceFree, Value.areBraceFreeEntries, and_assoc]

theorem isBraceFree_of_mem {entries : Entries} (free : IsBraceFree entries)
    {entry : Value × Value} (member : entry ∈ entries) :
    (entry.1.isNamedBraceFree = true ∧ entry.1.isBraceFree = true) ∧
      entry.2.isBraceFree = true := by
  induction entries with
  | nil => exact absurd member List.not_mem_nil
  | cons first later ih =>
      obtain ⟨named, here, rest⟩ := isBraceFree_cons.mp free
      rcases List.mem_cons.mp member with rfl | inside
      · exact ⟨named, here⟩
      · exact ih rest inside

theorem isBraceFree_lookup {entries : Entries} (free : IsBraceFree entries) (key : Text) :
    (lookup key entries).isBraceFree = true := by
  induction entries with
  | nil => rfl
  | cons first later ih =>
      obtain ⟨_, here, rest⟩ := isBraceFree_cons.mp free
      rw [lookup]
      split
      · exact here
      · exact ih rest

theorem isBraceFree_walk (segments : List Text) {value : Value}
    (free : value.isBraceFree = true) : (walk segments value).isBraceFree = true := by
  induction segments generalizing value with
  | nil => exact free
  | cons segment segments ih =>
      cases value with
      | map identity readOnly entries => exact ih (isBraceFree_lookup free segment)
      | _ => rfl

theorem isBraceFree_resolve {context : Entries} (free : context.IsBraceFree) (path : Text) :
    (resolve path context).isBraceFree = true := by
  unfold resolve
  split
  · have whole : (Value.map 0 false context).isBraceFree = true := free
    exact isBraceFree_walk _ whole
  · exact isBraceFree_lookup free path

theorem isBraceFree_set {entries : Entries} (free : IsBraceFree entries) {key : Text}
    (keyFree : Text.isBraceFree key = true) {value : Value} (content : value.isBraceFree = true) :
    IsBraceFree (set key value entries) := by
  induction entries with
  | nil => exact isBraceFree_cons.mpr ⟨⟨keyFree, keyFree⟩, content, isBraceFree_nil⟩
  | cons entry entries ih =>
      obtain ⟨found, old⟩ := entry
      obtain ⟨named, here, rest⟩ := isBraceFree_cons.mp free
      rw [set]
      split
      · exact isBraceFree_cons.mpr ⟨named, content, rest⟩
      · exact isBraceFree_cons.mpr ⟨named, here, ih rest⟩

theorem isBraceFree_targetEntries {value : Value} (free : value.isBraceFree = true)
    {entries : Entries} (has : Loop.targetEntries? value = some entries) :
    ∀ entry ∈ entries, entry.1.isBraceFree = true ∧ entry.2.isBraceFree = true := by
  intro entry member
  cases value with
  | map identity readOnly parts =>
      cases has
      obtain ⟨⟨_, key⟩, content⟩ := isBraceFree_of_mem free member
      exact ⟨key, content⟩
  | _ =>
      simp only [Loop.targetEntries?, Option.map_eq_some_iff] at has
      obtain ⟨items, found, rfl⟩ := has
      obtain ⟨⟨item, position⟩, among, rfl⟩ := List.mem_map.mp member
      exact ⟨rfl, Value.isBraceFree_items free found item (List.fst_mem_of_mem_zipIdx among)⟩

end Entries

theorem yields_intText (number : Int) :
    Yields (fun text => Text.isBraceFree text = true) (intText number) := by
  unfold intText
  split
  · exact .ok (Text.isBraceFree_ofInt number)
  · exact .error rfl

namespace Json

theorem yields_keyText (key : Value) :
    Yields (fun text => key.isBraceFree = true → Text.isBraceFree text = true) (keyText key) := by
  cases key with
  | text content => exact .ok id
  | float number => exact .ok fun _ => isBraceFree_writeFloat number
  | nan identity => exact .ok fun _ => by decide
  | bool value =>
      cases value
      · exact .ok fun _ => by decide
      · exact .ok fun _ => by decide
  | null => exact .ok fun _ => by decide
  | int number => exact (yields_intText number).imp fun _ free _ => free
  | _ => exact .error rfl

/-- What is written for a value is a text in which no tag begins, if the value
has no brace. -/
def Clear (free : Bool) (text : Text) : Prop :=
  free = true → Text.isInert text = true

theorem clear_of_isBraceFree {free : Bool} {text : Text} (clean : Text.isBraceFree text = true) :
    Clear free text :=
  fun _ => Text.isInert_of_isBraceFree clean

theorem clear_brackets {free : Bool} {text : Text} (clear : Clear free text) :
    Clear free ('[' :: text ++ [']']) := by
  intro here
  apply Text.isInert_append
  · exact Text.isInert_cons (by decide) (clear here)
  · decide

/-- What is written for entries may follow an opening brace, too. -/
def ClearEntries (free : Bool) (text : Text) : Prop :=
  free = true → Text.isInert text = true ∧ ∀ char ∈ text.head?, char ≠ '\x7b'

theorem head?_writeText (asciiOnly : Bool) (name more : Text) :
    ∀ char ∈ (writeText asciiOnly name ++ more).head?, char ≠ '\x7b' := by
  intro char first
  cases first
  decide

mutual

/-- The JSON form of a value without braces is a text in which no tag begins. -/
theorem yields_write : ∀ value : Value, Yields (Clear value.isBraceFree) (write compact value)
  | .undefined => .ok (clear_of_isBraceFree (by decide))
  | .null => .ok (clear_of_isBraceFree (by decide))
  | .bool true => .ok (clear_of_isBraceFree (by decide))
  | .bool false => .ok (clear_of_isBraceFree (by decide))
  | .int number => (yields_intText number).imp fun _ clean => clear_of_isBraceFree clean
  | .float number => .ok (clear_of_isBraceFree (isBraceFree_writeFloat number))
  | .nan _ => .ok (clear_of_isBraceFree (by decide))
  | .text _ => .ok fun free => isInert_writeText free
  | .list _ items => (yields_writeItems items).bind fun _ clear => .ok (clear_brackets clear)
  | .tuple _ items => (yields_writeItems items).bind fun _ clear => .ok (clear_brackets clear)
  | .range _ start stop step => by
      have numbers : Yields (fun texts => ∀ text ∈ texts, Text.isBraceFree text = true)
          ((Value.rangeItems start stop step).mapM intText) :=
        Yields.mapM fun number _ => yields_intText number
      apply numbers.bind
      intro texts clean
      apply Yields.ok
      apply clear_brackets
      intro _
      exact isInert_join fun text member => Text.isInert_of_isBraceFree (clean text member)
  | .map _ readOnly entries => by
      have lenient : (readOnly && !compact.lenient) = false := Bool.and_false readOnly
      rw [write, lenient]
      apply (yields_writeEntries entries).bind
      intro text clear
      apply Yields.ok
      intro free
      obtain ⟨inert, next⟩ := clear free
      apply Text.isInert_opening
      · exact Text.isInert_append inert (by decide)
      · cases text with
        | nil => decide
        | cons char text => simpa using next
  | .date _ date => .ok (clear_of_isBraceFree (isBraceFree_writeText false date.isBraceFree_text))
  | .timestamp _ stamp =>
      .ok (clear_of_isBraceFree (isBraceFree_writeText false stamp.isBraceFree_text))
termination_by structural value => value

theorem yields_writeItems : ∀ items : List Value,
    Yields (Clear (Value.areBraceFree items)) (writeItems compact items)
  | [] => .ok fun _ => rfl
  | [item] => by
      apply (yields_write item).imp
      intro text clear free
      exact clear (Value.areBraceFree_iff.mp free item List.mem_cons_self)
  | item :: next :: items => by
      apply (yields_write item).bind
      intro first here
      apply (yields_writeItems (next :: items)).bind
      intro rest later
      apply Yields.ok
      intro free
      rw [Value.areBraceFree, Bool.and_eq_true] at free
      apply Text.isInert_append _ (later free.2)
      exact Text.isInert_append (here free.1) (by decide)
termination_by structural items => items

theorem yields_writeEntries : ∀ entries : List (Value × Value),
    Yields (ClearEntries (Value.areBraceFreeEntries entries)) (writeEntries compact entries)
  | [] => .ok fun _ => ⟨rfl, by simp⟩
  | [(key, value)] => by
      apply (yields_keyText key).bind
      intro name named
      apply (yields_write value).bind
      intro text clear
      apply Yields.ok
      intro free
      obtain ⟨⟨_, keyFree⟩, content, _⟩ := Entries.isBraceFree_cons.mp free
      refine ⟨isInert_named (named keyFree) (clear content), ?_⟩
      rw [List.append_assoc]
      exact head?_writeText false name _
  | (key, value) :: next :: entries => by
      apply (yields_keyText key).bind
      intro name named
      apply (yields_write value).bind
      intro text clear
      apply (yields_writeEntries (next :: entries)).bind
      intro more later
      apply Yields.ok
      intro free
      obtain ⟨⟨_, keyFree⟩, content, rest⟩ := Entries.isBraceFree_cons.mp free
      constructor
      · apply Text.isInert_append _ (later rest).1
        exact Text.isInert_append (isInert_named (named keyFree) (clear content)) (by decide)
      · simp only [List.append_assoc]
        exact head?_writeText false name _
termination_by structural entries => entries

end

end Json

namespace Value

open Json

/-- A value without braces, if it has a text, has one in which no tag begins. -/
theorem yields_display (value : Value) : Yields (Clear value.isBraceFree) value.display := by
  cases value with
  | undefined => exact .ok fun _ => rfl
  | null => exact .ok fun _ => rfl
  | bool value =>
      cases value
      · exact .ok (clear_of_isBraceFree (by decide))
      · exact .ok (clear_of_isBraceFree (by decide))
  | int number => exact (yields_intText number).imp fun _ clean => clear_of_isBraceFree clean
  | float number =>
      rw [display]
      cases number.toInt? with
      | some whole => exact .ok (clear_of_isBraceFree (Text.isBraceFree_ofInt whole))
      | none => exact .ok (clear_of_isBraceFree number.isBraceFree_text)
  | nan identity => exact .ok (clear_of_isBraceFree (by decide))
  | text content => exact .ok Text.isInert_of_isBraceFree
  | date identity date => exact .ok (clear_of_isBraceFree date.isBraceFree_text)
  | timestamp identity stamp => exact .ok (clear_of_isBraceFree stamp.isBraceFree_text)
  | list identity items => exact yields_write (.list identity items)
  | tuple identity items => exact yields_write (.tuple identity items)
  | range identity start stop step => exact yields_write (.range identity start stop step)
  | map identity readOnly entries => exact yields_write (.map identity readOnly entries)

mutual

theorem yields_inner : ∀ value : Value, Yields (fun _ => True) (inner value)
  | .text _ | .null | .undefined | .bool _ | .float _ | .nan _ | .date .. | .timestamp .. =>
      .ok trivial
  | .int number => (yields_intText number).imp fun _ _ => trivial
  | .range _ start stop step => by
      have numbers : Yields (fun texts => ∀ text ∈ texts, Text.isBraceFree text = true)
          ((if step = 1 then [start, stop] else [start, stop, step]).mapM intText) :=
        Yields.mapM fun number _ => yields_intText number
      exact numbers.bind fun _ _ => .ok trivial
  | .list _ items => (yields_innerItems items).bind fun _ _ => .ok trivial
  | .tuple _ items => (yields_innerItems items).bind fun _ _ => .ok trivial
  | .map _ _ entries => (yields_innerEntries entries).bind fun _ _ => .ok trivial
termination_by structural value => value

theorem yields_innerItems : ∀ items : List Value, Yields (fun _ => True) (innerItems items)
  | [] => .ok trivial
  | item :: items => by
      apply (yields_inner item).bind
      intro first _
      exact (yields_innerItems items).bind fun _ _ => .ok trivial
termination_by structural items => items

theorem yields_innerEntries : ∀ entries : List (Value × Value),
    Yields (fun _ => True) (innerEntries entries)
  | [] => .ok trivial
  | (key, value) :: entries => by
      apply (yields_inner key).bind
      intro name _
      apply (yields_inner value).bind
      intro content _
      exact (yields_innerEntries entries).bind fun _ _ => .ok trivial
termination_by structural entries => entries

end

theorem yields_name (value : Value) :
    Yields (fun name => value.isNamedBraceFree = true → Text.isBraceFree name = true)
      value.name := by
  have familiar : Yields (fun _ => True) value.name := by
    cases value with
    | text content => exact .ok trivial
    | date identity date => exact .ok trivial
    | timestamp identity stamp => exact .ok trivial
    | _ => exact yields_inner _
  unfold isNamedBraceFree
  cases named : value.name with
  | ok name => exact .ok id
  | error fault =>
      rw [named] at familiar
      cases familiar with
      | error familiar => exact .error familiar

theorem yields_toBinary64 (value : Value) : Yields (fun _ => True) value.toBinary64 := by
  cases value with
  | int number =>
      rw [toBinary64]
      cases Binary64.ofInt? number with
      | some found => exact .ok trivial
      | none => exact .error rfl
  | text content =>
      rw [toBinary64]
      split
      · exact .ok trivial
      · split
        · exact .ok trivial
        · exact .ok trivial
  | _ => exact .ok trivial

theorem yields_looseEquals (left right : Value) :
    Yields (fun _ => True) (left.looseEquals right) := by
  unfold looseEquals
  split
  · exact .ok trivial
  · split
    · exact .ok trivial
    · split
      · apply (yields_toBinary64 _).bind
        intro first _
        apply (yields_toBinary64 _).bind
        intro second _
        split
        · exact .ok trivial
        · exact .ok trivial
      · split
        · exact (yields_display _).bind fun _ _ => .ok trivial
        · exact (yields_display _).bind fun _ _ => .ok trivial
        · exact .ok trivial

end Value

/-- Deciding a condition never comes upon an unknown name. -/
theorem Condition.yields_holds (literalFallback : Bool) (context : Entries)
    (condition : Condition) :
    Yields (fun _ => True) (condition.holds literalFallback context) := by
  cases condition with
  | name path => exact .ok trivial
  | negation path => exact .ok trivial
  | comparison sign left right =>
      cases sign with
      | strictlyEqual => exact .ok trivial
      | strictlyUnequal => exact .ok trivial
      | equal => exact Value.yields_looseEquals _ _
      | unequal => exact (Value.yields_looseEquals _ _).map fun _ _ => trivial

namespace Loop

variable (good : Text → Prop)

theorem yields_partBindings_of {valueName : Text}
    (named : ∀ name, Text.isBraceFree name = true → good (valueName ++ '.' :: name))
    {value : Value} (free : value.isBraceFree = true) :
    Yields (fun bindings => ∀ binding ∈ bindings,
      good binding.1 ∧ Text.isInert binding.2 = true) (partBindings valueName value) := by
  have parts : Entries.IsBraceFree (value.entries?.getD []) := by
    cases value with
    | map identity readOnly entries => exact free
    | _ => exact Entries.isBraceFree_nil
  apply Yields.mapM
  intro entry member
  obtain ⟨⟨nameFree, _⟩, content⟩ := Entries.isBraceFree_of_mem parts member
  apply (Value.yields_display entry.2).bind
  intro text clear
  apply (Value.yields_name entry.1).bind
  intro name clean
  exact .ok ⟨named name (clean nameFree), clear content⟩

theorem yields_nameBindings_of {context : Entries} (free : context.IsBraceFree)
    (named : ∀ entry ∈ context, entry.1.isNamedBraceFree = true → entry.2.isMapping = false →
      Yields good entry.1.name) :
    Yields (fun bindings => ∀ binding ∈ bindings,
      good binding.1 ∧ Text.isInert binding.2 = true) (nameBindings context) := by
  apply Yields.mapM
  rintro ⟨key, value⟩ member
  obtain ⟨among, shown⟩ := List.mem_filter.mp member
  obtain ⟨⟨nameFree, _⟩, content⟩ := Entries.isBraceFree_of_mem free among
  have noMapping : value.isMapping = false := by simpa using shown
  apply (named _ among nameFree noMapping).bind
  intro name fine
  apply (Value.yields_display value).bind
  intro text clear
  exact .ok ⟨fine, clear content⟩

end Loop

end Stencil
