import Stencil.Proofs.Data.Scalar
import Stencil.Proofs.Template.Syntax

/-!
# Plain data

The data that templates are meant for: no brace in any text, keys that are
words and differ from one another, integers that can be written, and nothing
undefined.  A plain value has a text, no tag begins in it, and whatever a path
or a loop leads to from plain data is plain again.
-/

namespace Stencil

/-- Whether a text can be written as a bound name or as a segment of a path on
its own. -/
def Text.isKey (text : Text) : Bool :=
  !text.isEmpty && text.all isWord && !Interpolation.blockWords.contains text

/-- Whether an integer has few enough digits to be written. -/
def Value.isShort (number : Int) : Bool :=
  number.natAbs < Nat.pow 10 maxDigits

mutual

/-- Whether a value has a text in which no tag can begin, as have its parts.
The positions in a list are integers that can be written, too. -/
def Value.isPlain : Value → Bool
  | .undefined => false
  | .null | .bool _ | .float _ | .nan _ | .date .. | .timestamp .. => true
  | .int number => Value.isShort number
  | .text content => Text.isBraceFree content
  | .list _ items | .tuple _ items =>
      decide (items.length ≤ Nat.pow 10 maxDigits) && Value.arePlain items
  | .range _ start stop step =>
      decide (Value.rangeLength start stop step ≤ Nat.pow 10 maxDigits)
        && (Value.rangeItems start stop step).all Value.isShort
  | .map _ _ entries => Value.arePlainEntries entries
termination_by structural value => value

def Value.arePlain : List Value → Bool
  | [] => true
  | item :: items => Value.isPlain item && Value.arePlain items
termination_by structural items => items

def Value.arePlainEntries : List (Value × Value) → Bool
  | [] => true
  | (key, value) :: entries =>
      (match key with
        | .text name => Text.isKey name && !Entries.hasKey name entries
        | _ => false)
        && Value.isPlain value && Value.arePlainEntries entries
termination_by structural entries => entries

end

def Entries.IsPlain (entries : Entries) : Prop :=
  Value.arePlainEntries entries = true

instance (entries : Entries) : Decidable entries.IsPlain :=
  inferInstanceAs (Decidable (_ = true))

namespace Word

theorem isKey (word : Word) : Text.isKey word.text = true := by
  obtain ⟨nonempty, words, free⟩ := word.wellFormed
  simp [Text.isKey, nonempty, words, free]

theorem isBraceFree (word : Word) : Text.isBraceFree word.text = true :=
  Text.isBraceFree_of_isPathChar (Text.all_isPathChar_of_isWord word.wellFormed.2.1)

def ofKey (text : Text) (key : Text.isKey text = true) : Word where
  text := text
  wellFormed := by
    simp only [Text.isKey, Bool.and_eq_true, Bool.not_eq_true', List.isEmpty_eq_false_iff] at key
    obtain ⟨⟨nonempty, words⟩, free⟩ := key
    exact ⟨nonempty, words, by simpa using free⟩

theorem dot_not_mem (word : Word) : '.' ∉ word.text := by
  intro member
  have dot : Text.isWord '.' = false := by decide +kernel
  rw [List.all_eq_true.mp word.wellFormed.2.1 '.' member] at dot
  exact absurd dot (by decide)

end Word

namespace Entries

theorem isPlain_cons {key value : Value} {entries : Entries} :
    IsPlain ((key, value) :: entries) ↔
      (∃ word : Word, key = .text word.text ∧ hasKey word.text entries = false) ∧
        value.isPlain = true ∧ IsPlain entries := by
  constructor
  · intro plain
    cases key with
    | text name =>
        simp only [IsPlain, Value.arePlainEntries, Bool.and_eq_true] at plain
        obtain ⟨⟨⟨named, fresh⟩, here⟩, later⟩ := plain
        have unused : hasKey name entries = false := by simpa using fresh
        exact ⟨⟨Word.ofKey name named, rfl, unused⟩, here, later⟩
    | _ => simp [IsPlain, Value.arePlainEntries] at plain
  · rintro ⟨⟨word, rfl, fresh⟩, here, later⟩
    have tail : Value.arePlainEntries entries = true := later
    simp [IsPlain, Value.arePlainEntries, word.isKey, fresh, here, tail]

theorem isPlain_nil : IsPlain [] := rfl

theorem isPlain_of_mem {entries : Entries} (plain : IsPlain entries) {entry : Value × Value}
    (member : entry ∈ entries) :
    (∃ word : Word, entry.1 = .text word.text) ∧ entry.2.isPlain = true := by
  induction entries with
  | nil => exact absurd member (by simp)
  | cons first later ih =>
      obtain ⟨⟨word, named, _⟩, here, rest⟩ := isPlain_cons.mp plain
      rcases List.mem_cons.mp member with rfl | inside
      · exact ⟨⟨word, named⟩, here⟩
      · exact ih rest inside

theorem isPlain_lookup {entries : Entries} (plain : IsPlain entries) (key : Text) :
    lookup key entries = .undefined ∨ (lookup key entries).isPlain = true := by
  induction entries with
  | nil => exact .inl rfl
  | cons first later ih =>
      obtain ⟨_, here, rest⟩ := isPlain_cons.mp plain
      rw [lookup]
      split
      · exact .inr here
      · exact ih rest

theorem isPlain_walk (segments : List Text) {value : Value}
    (plain : value = .undefined ∨ value.isPlain = true) :
    walk segments value = .undefined ∨ (walk segments value).isPlain = true := by
  induction segments generalizing value with
  | nil => exact plain
  | cons segment segments ih =>
      cases value with
      | map identity readOnly entries =>
          rcases plain with impossible | plain
          · exact absurd impossible (by simp)
          · exact ih (isPlain_lookup plain segment)
      | _ => exact .inl rfl

theorem isPlain_resolve {context : Entries} (plain : context.IsPlain) (path : Text) :
    resolve path context = .undefined ∨ (resolve path context).isPlain = true := by
  unfold resolve
  split
  · exact isPlain_walk _ (.inr plain)
  · exact isPlain_lookup plain path

theorem hasKey_set (key other : Text) (value : Value) (entries : Entries) :
    hasKey other (set key value entries) = (decide (key = other) || hasKey other entries) := by
  induction entries with
  | nil => simp [set, hasKey]
  | cons entry entries ih =>
      obtain ⟨found, old⟩ := entry
      simp only [hasKey, set] at ih ⊢
      by_cases same : found = .text key
      · by_cases equal : key = other
        · simp [same, equal]
        · simp [same, equal]
      · rw [if_neg same, List.any_cons, List.any_cons, ih]
        cases decide (key = other) <;> simp

/-- Plain data stays plain when a word is bound to something plain. -/
theorem isPlain_set {entries : Entries} (plain : IsPlain entries) (word : Word) {value : Value}
    (content : value.isPlain = true) : IsPlain (set word.text value entries) := by
  induction entries with
  | nil => exact isPlain_cons.mpr ⟨⟨word, rfl, rfl⟩, content, isPlain_nil⟩
  | cons entry entries ih =>
      obtain ⟨found, old⟩ := entry
      obtain ⟨⟨name, named, fresh⟩, here, rest⟩ := isPlain_cons.mp plain
      rw [set]
      split
      · exact isPlain_cons.mpr ⟨⟨name, named, fresh⟩, content, rest⟩
      · next differs =>
          refine isPlain_cons.mpr ⟨⟨name, named, ?_⟩, here, ih rest⟩
          have distinct : word.text ≠ name.text := by
            intro same
            exact differs (by rw [named, same])
          rw [hasKey_set, fresh]
          simpa using distinct

end Entries

namespace Value

theorem isPlain_of_mem_arePlain {items : List Value} (plain : arePlain items = true)
    {item : Value} (member : item ∈ items) : item.isPlain = true := by
  induction items with
  | nil => exact absurd member (by simp)
  | cons first later ih =>
      rw [arePlain, Bool.and_eq_true] at plain
      rcases List.mem_cons.mp member with rfl | inside
      · exact plain.1
      · exact ih plain.2 inside

/-- The items of a plain value are plain, and no more than can be counted. -/
theorem isPlain_items {value : Value} (plain : value.isPlain = true) {items : List Value}
    (has : value.items? = some items) :
    items.length ≤ Nat.pow 10 maxDigits ∧ ∀ item ∈ items, item.isPlain = true := by
  cases value with
  | list identity members =>
      cases has
      rw [isPlain, Bool.and_eq_true, decide_eq_true_eq] at plain
      exact ⟨plain.1, fun item member => isPlain_of_mem_arePlain plain.2 member⟩
  | tuple identity members =>
      cases has
      rw [isPlain, Bool.and_eq_true, decide_eq_true_eq] at plain
      exact ⟨plain.1, fun item member => isPlain_of_mem_arePlain plain.2 member⟩
  | range identity start stop step =>
      cases has
      rw [isPlain, Bool.and_eq_true, decide_eq_true_eq] at plain
      refine ⟨by simpa [rangeItems] using plain.1, ?_⟩
      intro item member
      obtain ⟨number, among, rfl⟩ := List.mem_map.mp member
      exact List.all_eq_true.mp plain.2 number among
  | _ => exact absurd has (by simp [items?])

theorem isPlain_numbered {items : List Value} (few : items.length ≤ Nat.pow 10 maxDigits)
    (all : ∀ item ∈ items, item.isPlain = true) {item : Value} {position : Nat}
    (member : (item, position) ∈ items.zipIdx) :
    (int position).isPlain = true ∧ item.isPlain = true := by
  obtain ⟨_, bound, same⟩ := List.mem_zipIdx member
  constructor
  · show decide ((position : Int).natAbs < Nat.pow 10 maxDigits) = true
    rw [decide_eq_true_eq, Int.natAbs_natCast]
    omega
  · rw [same]
    exact all _ (List.getElem_mem _)

theorem isPlain_targetEntries {value : Value} (plain : value.isPlain = true) {entries : Entries}
    (has : Loop.targetEntries? value = some entries) :
    ∀ entry ∈ entries, entry.1.isPlain = true ∧ entry.2.isPlain = true := by
  intro entry member
  cases value with
  | map identity readOnly parts =>
      cases has
      obtain ⟨⟨word, named⟩, content⟩ := Entries.isPlain_of_mem plain member
      rw [named]
      exact ⟨word.isBraceFree, content⟩
  | _ =>
      simp only [Loop.targetEntries?, Option.map_eq_some_iff] at has
      obtain ⟨items, found, rfl⟩ := has
      obtain ⟨few, all⟩ := isPlain_items plain found
      obtain ⟨⟨item, position⟩, among, rfl⟩ := List.mem_map.mp member
      exact isPlain_numbered few all among

end Value

end Stencil
