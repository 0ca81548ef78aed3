import Stencil.Proofs.Data.Json.Nested
import Stencil.Proofs.Text.Utf8
import Stencil.Settings.File

/-!
# Data that is written and read back

Nulls, truth values, integers that can be written, texts, and lists, tuples, ranges and
mappings of such data are what JSON has a form for.  What is written for them is read back:
tuples and ranges as lists, read-only mappings as mappings.  A file keeps every such text as it
is, as there are no control characters in it, and so no line ends.
-/

namespace Stencil

mutual

/-- Whether a value is data that JSON has a form for: no dates and no floating-point numbers,
no integers with too many digits, in ranges neither, and mappings with texts as keys. -/
def Value.isData : Value → Bool
  | .null | .bool _ | .text _ => true
  | .int number => Value.isShort number
  | .list _ items | .tuple _ items => Value.areData items
  | .range _ start stop step => (Value.rangeItems start stop step).all Value.isShort
  | .map _ _ entries => Value.areDataEntries entries
  | _ => false
termination_by structural value => value

def Value.areData : List Value → Bool
  | [] => true
  | item :: items => Value.isData item && Value.areData items
termination_by structural items => items

/-- Whether all entries are data, with texts as keys that differ from one another. -/
def Value.areDataEntries : List (Value × Value) → Bool
  | [] => true
  | (key, value) :: entries =>
      (match key with
        | .text name => !Entries.hasKey name entries
        | _ => false)
        && Value.isData value && Value.areDataEntries entries
termination_by structural entries => entries

end

mutual

/-- Data as it is read, before identities are given to its parts: every sequence is a list, and
no mapping is read-only. -/
def Value.asData : Value → Value
  | .list _ items | .tuple _ items => .list 0 (Value.asDataItems items)
  | .range _ start stop step => .list 0 ((Value.rangeItems start stop step).map .int)
  | .map _ _ entries => .map 0 false (Value.asDataEntries entries)
  | value => value
termination_by structural value => value

def Value.asDataItems : List Value → List Value
  | [] => []
  | item :: items => Value.asData item :: Value.asDataItems items
termination_by structural items => items

/-- Entries as they are read: the same keys in the same order. -/
def Value.asDataEntries : List (Value × Value) → List (Value × Value)
  | [] => []
  | (key, value) :: entries => (key, Value.asData value) :: Value.asDataEntries entries
termination_by structural entries => entries

end

namespace Value

theorem steps_within {position : Nat} {room step : Int} (forward : 0 < step) (some : 0 < room)
    (few : position < ((room - 1) / step).toNat + 1) :
    0 ≤ position * step ∧ position * step < room := by
  have whole := Int.ediv_nonneg (show 0 ≤ room - 1 by omega) (Int.le_of_lt forward)
  have steps : (position : Int) ≤ (room - 1) / step := by omega
  have reached := (Int.le_ediv_iff_mul_le forward).mp steps
  have ahead := Int.mul_nonneg (Int.natCast_nonneg position) (Int.le_of_lt forward)
  exact ⟨ahead, by omega⟩

theorem mem_rangeItems {start stop step number : Int}
    (member : number ∈ rangeItems start stop step) :
    start ≤ number ∧ number < stop ∨ stop < number ∧ number ≤ start := by
  obtain ⟨position, before, rfl⟩ := List.mem_map.mp member
  have few := List.mem_range.mp before
  rw [rangeLength] at few
  split_ifs at few with up room down room
  · obtain ⟨ahead, short⟩ := steps_within up (show 0 < stop - start by omega) few
    exact .inl ⟨by omega, by omega⟩
  · exact absurd few (Nat.not_lt_zero _)
  · obtain ⟨ahead, short⟩ := steps_within (show 0 < -step by omega)
      (show 0 < start - stop by omega) few
    rw [Int.mul_neg] at ahead short
    exact .inr ⟨by omega, by omega⟩
  · exact absurd few (Nat.not_lt_zero _)
  · exact absurd few (Nat.not_lt_zero _)

theorem isData_range {start stop : Int} (first : isShort start = true)
    (last : isShort stop = true) (identity : Nat) (step : Int) :
    isData (.range identity start stop step) = true := by
  apply List.all_eq_true.mpr
  intro number member
  have between := mem_rangeItems member
  have bounds : start.natAbs < Nat.pow 10 maxDigits ∧ stop.natAbs < Nat.pow 10 maxDigits :=
    ⟨of_decide_eq_true first, of_decide_eq_true last⟩
  have small : number.natAbs < Nat.pow 10 maxDigits := by
    generalize Nat.pow 10 maxDigits = bound at bounds ⊢
    omega
  exact decide_eq_true small

end Value

namespace Entries

theorem hasKey_asData (key : Text) (entries : Entries) :
    hasKey key (Value.asDataEntries entries) = hasKey key entries := by
  induction entries with
  | nil => rfl
  | cons entry entries ih =>
      obtain ⟨found, value⟩ := entry
      rw [Value.asDataEntries, hasKey_cons, hasKey_cons, ih]

end Entries

namespace Json

mutual

/-- Data is written as a text that is read as that data. -/
theorem write_readsAs : ∀ value : Value, value.isData = true →
    ∃ text, write compact value = .ok text ∧ ReadsAs text value.asData
  | .null => fun _ => ⟨_, rfl, readsAs_null⟩
  | .bool value => fun _ => ⟨_, rfl, readsAs_bool value⟩
  | .text text => fun _ => ⟨_, rfl, readsAs_text text⟩
  | .int _ => fun short => ⟨_, intText_of_isShort short, readsAs_int short⟩
  | .list _ items => by
      intro data
      obtain ⟨parts, written, each⟩ := writeItems_readsAs items data
      refine ⟨'[' :: Text.join [','] parts ++ [']'], ?_, readsAs_list each⟩
      rw [write, written]
      rfl
  | .tuple _ items => by
      intro data
      obtain ⟨parts, written, each⟩ := writeItems_readsAs items data
      refine ⟨'[' :: Text.join [','] parts ++ [']'], ?_, readsAs_list each⟩
      rw [write, written]
      rfl
  | .range _ start stop step => by
      intro short
      have each := readsAs_ints short
      refine ⟨'[' :: Text.join [','] _ ++ [']'], ?_, readsAs_list each⟩
      rw [write, mapM_intText short]
      rfl
  | .map _ readOnly entries => by
      intro data
      obtain ⟨parts, written, each⟩ := writeEntries_readsAs entries data
      have lenient : (readOnly && !compact.lenient) = false := Bool.and_false readOnly
      refine ⟨'\x7b' :: Text.join [','] parts ++ ['\x7d'], ?_, readsAs_map each⟩
      rw [write, written, lenient]
      rfl
  | .undefined => by simp [Value.isData]
  | .float _ => by simp [Value.isData]
  | .nan _ => by simp [Value.isData]
  | .date _ _ => by simp [Value.isData]
  | .timestamp _ _ => by simp [Value.isData]
termination_by structural value => value

theorem writeItems_readsAs : ∀ items : List Value, Value.areData items = true →
    ∃ parts, writeItems compact items = .ok (Text.join [','] parts) ∧
      List.Forall₂ ReadsAs parts (Value.asDataItems items)
  | [] => fun _ => ⟨[], rfl, .nil⟩
  | item :: items => by
      intro data
      rw [Value.areData, Bool.and_eq_true] at data
      obtain ⟨text, written, reads⟩ := write_readsAs item data.1
      obtain ⟨parts, later, each⟩ := writeItems_readsAs items data.2
      refine ⟨text :: parts, ?_, .cons reads each⟩
      cases items with
      | nil =>
          cases each
          exact written
      | cons next items =>
          have more : parts ≠ [] := by
            rintro rfl
            cases each
          rw [writeItems, written, later, join_cons more]
          exact congrArg Except.ok (List.append_assoc _ _ _)
termination_by structural items => items

theorem writeEntries_readsAs : ∀ entries : List (Value × Value),
    Value.areDataEntries entries = true →
    ∃ parts, writeEntries compact entries = .ok (Text.join [','] parts) ∧
      EntriesReadAs parts (Value.asDataEntries entries)
  | [] => fun _ => ⟨[], rfl, .nil⟩
  | (key, value) :: entries => by
      intro data
      cases key with
      | text name =>
          simp only [Value.areDataEntries, Bool.and_eq_true, Bool.not_eq_true'] at data
          obtain ⟨⟨unused, here⟩, rest⟩ := data
          have fresh := (Entries.hasKey_asData name entries).trans unused
          obtain ⟨text, written, reads⟩ := write_readsAs value here
          obtain ⟨parts, later, each⟩ := writeEntries_readsAs entries rest
          refine ⟨(writeText false name ++ [':'] ++ text) :: parts, ?_, .cons reads fresh each⟩
          cases entries with
          | nil =>
              cases each
              rw [writeEntries, written]
              rfl
          | cons next entries =>
              have more : parts ≠ [] := by
                rintro rfl
                cases each
              rw [writeEntries, written, later, join_cons more]
              exact congrArg Except.ok (List.append_assoc _ _ _)
      | _ => simp [Value.areDataEntries] at data
termination_by structural entries => entries

end

end Json

namespace Settings

end Settings

end Stencil
