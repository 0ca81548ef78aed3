import Stencil.Data.Resolve
import Stencil.Proofs.Text.Split

/-!
# Paths in parts

A path may be cut at any of its dots: what stands before the dot leads to a value,
and what stands behind it is looked up in that value, which has to be a mapping.
So a name without a dot is a path of one segment, and nothing is found behind a list,
a scalar, null or a value that is missing.
-/

namespace Stencil.Entries

/-- What a path stands for inside a value; inside anything but a mapping it stands for
nothing. -/
def resolveIn (path : Text) : Value → Value
  | .map _ _ entries => resolve path entries
  | _ => .undefined

/-- Some segments lead from a value to another one: each is looked up in a mapping, the
one that the segments before it lead to. -/
inductive Leads : Value → List Text → Value → Prop where
  | here (value : Value) : Leads value [] value
  | into {identity : Nat} {readOnly : Bool} {entries : Entries} {segment : Text}
      {segments : List Text} {found : Value} :
      Leads (lookup segment entries) segments found →
      Leads (.map identity readOnly entries) (segment :: segments) found

theorem walk_undefined (segments : List Text) : walk segments .undefined = .undefined := by
  cases segments <;> rfl

theorem walk_append (first later : List Text) (value : Value) :
    walk (first ++ later) value = walk later (walk first value) := by
  induction first generalizing value with
  | nil => rfl
  | cons segment first ih =>
      cases value with
      | map identity readOnly entries => exact ih (lookup segment entries)
      | _ => exact (walk_undefined later).symm

/-- A mapping is looked into whatever its identity is, and whether or not it can be
changed. -/
theorem resolve_eq_walk (path : Text) (identity : Nat) (readOnly : Bool) (context : Entries) :
    resolve path context = walk (Text.split '.' path) (.map identity readOnly context) := by
  rw [resolve]
  split
  · cases segments : Text.split '.' path with
    | nil => exact absurd segments (Text.split_ne_nil '.' path)
    | cons segment segments => rfl
  · next noDot =>
      rw [Text.split_of_not_mem noDot]
      rfl

theorem walk_split (path : Text) (value : Value) :
    walk (Text.split '.' path) value = resolveIn path value := by
  cases value with
  | map identity readOnly entries => exact (resolve_eq_walk path identity readOnly entries).symm
  | _ =>
      cases segments : Text.split '.' path with
      | nil => exact absurd segments (Text.split_ne_nil '.' path)
      | cons segment segments => rfl

theorem resolve_append_dot (path rest : Text) (context : Entries) :
    resolve (path ++ '.' :: rest) context = resolveIn rest (resolve path context) := by
  rw [resolve_eq_walk (path ++ '.' :: rest) 0 false, Text.split_append_delimiter, walk_append,
    ← resolve_eq_walk path 0 false, walk_split]

theorem resolve_join (first : Text) (later : List Text) (context : Entries) :
    resolve (Text.join ['.'] (first :: later)) context =
      later.foldl (fun value path => resolveIn path value) (resolve first context) := by
  induction later generalizing first with
  | nil => rfl
  | cons next later ih =>
      have joined : Text.join ['.'] (first :: next :: later) =
          Text.join ['.'] ((first ++ '.' :: next) :: later) := by
        cases later <;> simp [Text.join]
      rw [joined, ih, resolve_append_dot]
      rfl

theorem Leads.walk_eq {value found : Value} {segments : List Text}
    (leads : Leads value segments found) : walk segments value = found := by
  induction leads with
  | here value => rfl
  | into _ ih => exact ih

/-- Segments come to what they lead to; if they lead nowhere, they come to nothing. -/
theorem walk_eq_iff {value found : Value} {segments : List Text} :
    walk segments value = found ↔
      Leads value segments found ∨
        (found = .undefined ∧ ∀ other, ¬ Leads value segments other) := by
  induction segments generalizing value with
  | nil =>
      constructor
      · rintro rfl
        exact .inl (.here value)
      · rintro (leads | ⟨_, nowhere⟩)
        · exact leads.walk_eq
        · exact absurd (.here value) (nowhere value)
  | cons segment segments ih =>
      cases value with
      | map identity readOnly entries =>
          have inside : ∀ other, Leads (.map identity readOnly entries) (segment :: segments) other ↔
              Leads (lookup segment entries) segments other := fun other =>
            ⟨fun leads => by cases leads with | into further => exact further, .into⟩
          rw [walk, ih]
          simp only [inside]
      | _ =>
          constructor
          · rintro rfl
            exact .inr ⟨rfl, fun other leads => by cases leads⟩
          · rintro (leads | ⟨rfl, _⟩)
            · cases leads
            · rfl

/-- Paths compose.  A path is resolved behind a dot in what the part before the dot stands
for, and so on for all parts that it is cut into; a name is a path of one segment; and a
path stands for what its segments lead to through mappings alone, for nothing if they lead
nowhere. -/
theorem resolve_composes (context : Entries) :
    (∀ path rest, resolve (path ++ '.' :: rest) context =
      match resolve path context with
      | .map _ _ inner => resolve rest inner
      | _ => .undefined) ∧
    (∀ first later, resolve (Text.join ['.'] (first :: later)) context =
      later.foldl (fun value path => resolveIn path value) (resolve first context)) ∧
    (∀ name identity readOnly,
      lookup name context = walk [name] (.map identity readOnly context)) ∧
    (∀ path identity readOnly,
      resolve path context = walk (Text.split '.' path) (.map identity readOnly context)) ∧
    ∀ path identity readOnly found, resolve path context = found ↔
      Leads (.map identity readOnly context) (Text.split '.' path) found ∨
        (found = .undefined ∧
          ∀ other, ¬ Leads (.map identity readOnly context) (Text.split '.' path) other) := by
  refine ⟨?atDot, fun first later => resolve_join first later context, fun _ _ _ => rfl,
    fun path identity readOnly => resolve_eq_walk path identity readOnly context, ?leads⟩
  case atDot =>
    intro path rest
    rw [resolve_append_dot]
    cases resolve path context <;> rfl
  case leads =>
    intro path identity readOnly found
    rw [resolve_eq_walk path identity readOnly]
    exact walk_eq_iff

/-- A path through two mappings, and what it is cut into. -/
example :
    let city : Value := .map 3 true [(.text "name".toList, .text "Bonn".toList)]
    let context : Entries := [(.text "user".toList, .map 2 false [(.text "city".toList, city)])]
    resolve "user.city.name".toList context = .text "Bonn".toList ∧
      resolve "user.city".toList context = city ∧
      Text.split '.' "user.city.name".toList =
        ["user".toList, "city".toList, "name".toList] := by
  decide +kernel

/-- An item of a list is not found by its position. -/
example : resolve "items.0".toList [(.text "items".toList, .list 2 [.int 7])] = .undefined := by
  decide

end Stencil.Entries
