import Stencil.Proofs.Data.Paths
import Stencil.Proofs.Template.Cuts

/-!
# Keys without quotes

In data whose keys have no quotes, a path with a quote leads to nothing.  Any other
path leads to any value in some such data, whatever its segments are.
-/

namespace Stencil

/-- Whether a key, if it is a text, has no quotes. -/
def Value.isUnquoted : Value → Bool
  | .text content => content.all (!Arguments.isQuote ·)
  | _ => true

mutual

/-- Whether the keys of a mapping have no quotes, and the keys of the mappings in it. -/
def Value.hasUnquotedKeys : Value → Bool
  | .map _ _ entries => Value.haveUnquotedKeys entries
  | _ => true
termination_by structural value => value

def Value.haveUnquotedKeys : List (Value × Value) → Bool
  | [] => true
  | (key, value) :: entries =>
      key.isUnquoted && Value.hasUnquotedKeys value && Value.haveUnquotedKeys entries
termination_by structural entries => entries

end

namespace Entries

def isUnquoted (context : Entries) : Bool :=
  context.all (·.1.isUnquoted)

theorem isUnquoted_of_haveUnquotedKeys {context : Entries}
    (unquoted : Value.haveUnquotedKeys context = true) : context.isUnquoted = true := by
  induction context with
  | nil => rfl
  | cons entry context ih =>
      simp only [Value.haveUnquotedKeys, Bool.and_eq_true] at unquoted
      rw [isUnquoted, List.all_cons, unquoted.1.1]
      exact ih unquoted.2

variable {quote : Char}

theorem lookup_of_isQuote (isQuote : Arguments.isQuote quote = true) {key : Text}
    (member : quote ∈ key) {context : Entries} (unquoted : context.isUnquoted = true) :
    lookup key context = .undefined := by
  induction context with
  | nil => rfl
  | cons entry context ih =>
      rw [isUnquoted, List.all_cons, Bool.and_eq_true] at unquoted
      obtain ⟨here, later⟩ := unquoted
      have differs : entry.1 ≠ .text key := by
        intro same
        rw [same] at here
        have noQuote := List.all_eq_true.mp here quote member
        rw [isQuote] at noQuote
        exact absurd noQuote (by decide)
      rw [lookup, if_neg differs]
      exact ih later

theorem hasUnquotedKeys_lookup (key : Text) {context : Entries}
    (unquoted : Value.haveUnquotedKeys context = true) :
    (lookup key context).hasUnquotedKeys = true := by
  induction context with
  | nil => rfl
  | cons entry context ih =>
      simp only [Value.haveUnquotedKeys, Bool.and_eq_true] at unquoted
      rw [lookup]
      split
      · exact unquoted.1.2
      · exact ih unquoted.2

/-- No path with a quote leads to anything in data without quotes in its keys. -/
theorem walk_of_isQuote (isQuote : Arguments.isQuote quote = true) {segments : List Text}
    (inside : ∃ segment ∈ segments, quote ∈ segment) {value : Value}
    (unquoted : value.hasUnquotedKeys = true) : walk segments value = .undefined := by
  induction segments generalizing value with
  | nil =>
      obtain ⟨_, member, _⟩ := inside
      exact absurd member List.not_mem_nil
  | cons first segments ih =>
      cases value with
      | map identity readOnly entries =>
          obtain ⟨segment, member, holds⟩ := inside
          rw [walk]
          rcases List.mem_cons.mp member with rfl | later
          · rw [lookup_of_isQuote isQuote holds (isUnquoted_of_haveUnquotedKeys unquoted),
              walk_undefined]
          · exact ih ⟨segment, later, holds⟩ (hasUnquotedKeys_lookup first unquoted)
      | _ => rfl

theorem resolve_of_isQuote (isQuote : Arguments.isQuote quote = true) {path : Text}
    (member : quote ∈ path) {context : Entries}
    (unquoted : Value.haveUnquotedKeys context = true) : resolve path context = .undefined := by
  have noDot : quote ≠ '.' := by
    rintro rfl
    exact absurd isQuote (by decide)
  rw [resolve]
  split
  · exact walk_of_isQuote isQuote (Text.exists_mem_split_of_mem noDot member) unquoted
  · exact lookup_of_isQuote isQuote member (isUnquoted_of_haveUnquotedKeys unquoted)

/-- A path that begins with a quote leads to nothing already if the keys of the context
have none, whatever is in its values. -/
theorem resolve_quoted (isQuote : Arguments.isQuote quote = true) (rest : Text)
    {context : Entries} (unquoted : context.isUnquoted = true) :
    resolve (quote :: rest) context = .undefined := by
  rw [resolve]
  split
  · have noDot : quote ≠ '.' := by
      rintro rfl
      exact absurd isQuote (by decide)
    have first : ∃ segment later, Text.split '.' (quote :: rest) = (quote :: segment) :: later := by
      rw [Text.split, if_neg noDot]
      cases Text.split '.' rest with
      | nil => exact ⟨[], [], rfl⟩
      | cons stretch later => exact ⟨stretch, later, rfl⟩
    obtain ⟨segment, later, stretches⟩ := first
    rw [stretches, walk, lookup_of_isQuote isQuote List.mem_cons_self unquoted, walk_undefined]
  · exact lookup_of_isQuote isQuote List.mem_cons_self unquoted

/-- Mappings one in the other, with a value in the last one. -/
def under : List Text → Value → Value
  | [], value => value
  | segment :: segments, value => .map 0 false [(.text segment, under segments value)]

/-- A context in which a path stands for a value. -/
def binding (path : Text) (value : Value) : Entries :=
  match Text.split '.' path with
  | [] => []
  | segment :: segments => [(.text segment, under segments value)]

theorem walk_under (segments : List Text) (value : Value) :
    walk segments (under segments value) = value := by
  induction segments with
  | nil => rfl
  | cons segment segments ih =>
      rw [under, walk, lookup, if_pos rfl]
      exact ih

theorem resolve_binding (path : Text) (value : Value) : resolve path (binding path value) = value := by
  cases stretches : Text.split '.' path with
  | nil => exact absurd stretches (Text.split_ne_nil '.' path)
  | cons segment segments =>
      rw [resolve, binding, stretches]
      split
      · exact walk_under (segment :: segments) value
      · next noDot =>
          rw [Text.split_of_not_mem noDot, List.cons.injEq] at stretches
          obtain ⟨rfl, rfl⟩ := stretches
          rw [lookup, if_pos rfl, under]

theorem hasUnquotedKeys_under {segments : List Text}
    (unquoted : ∀ segment ∈ segments, Value.isUnquoted (.text segment) = true) {value : Value}
    (within : value.hasUnquotedKeys = true) : (under segments value).hasUnquotedKeys = true := by
  induction segments with
  | nil => exact within
  | cons segment segments ih =>
      have later := ih fun next member => unquoted next (List.mem_cons_of_mem segment member)
      simp only [under, Value.hasUnquotedKeys, Value.haveUnquotedKeys, later,
        unquoted segment List.mem_cons_self, Bool.and_self]

theorem haveUnquotedKeys_binding {path : Text} (isPath : path.all Text.isPathChar = true)
    {value : Value} (within : value.hasUnquotedKeys = true) :
    Value.haveUnquotedKeys (binding path value) = true := by
  have unquoted : ∀ segment ∈ Text.split '.' path, Value.isUnquoted (.text segment) = true := by
    intro segment member
    rw [Value.isUnquoted, List.all_eq_true]
    intro char inside
    have pathChar := List.all_eq_true.mp isPath char
      ((Text.infix_of_mem_split member).subset inside)
    rw [Arguments.isQuote_eq_false (Text.not_mem_separators_of_isPathChar pathChar)]
    rfl
  have whole := hasUnquotedKeys_under unquoted within
  rw [binding]
  cases stretches : Text.split '.' path with
  | nil => rfl
  | cons segment segments =>
      rw [stretches] at whole
      exact whole

end Entries

end Stencil
