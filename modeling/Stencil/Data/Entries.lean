import Stencil.Data.Equality

/-!
# Mappings

Looking up and setting entries.  A key that is there already keeps its place
and its first form; its value is replaced.
-/

namespace Stencil.Entries

/-- The value of a key that is a text; `undefined` if there is none. -/
def lookup (key : Text) : Entries → Value
  | [] => .undefined
  | (found, value) :: entries =>
      if found = .text key then value else lookup key entries

def hasKey (key : Text) (entries : Entries) : Bool :=
  entries.any fun (found, _) => found = .text key

def insert (key value : Value) : Entries → Entries
  | [] => [(key, value)]
  | (found, old) :: entries =>
      if Value.equal found key then (found, value) :: entries
      else (found, old) :: insert key value entries

/-- The entries with a value for a key that is a text. -/
def set (key : Text) (value : Value) : Entries → Entries
  | [] => [(.text key, value)]
  | (found, old) :: entries =>
      if found = .text key then (found, value) :: entries
      else (found, old) :: set key value entries

theorem lookup_set_self (key : Text) (value : Value) (entries : Entries) :
    lookup key (set key value entries) = value := by
  induction entries with
  | nil => simp [set, lookup]
  | cons entry entries ih =>
      by_cases same : entry.1 = .text key <;> simp [set, lookup, same, ih]

theorem lookup_set_of_ne {key other : Text} (distinct : other ≠ key) (value : Value)
    (entries : Entries) : lookup other (set key value entries) = lookup other entries := by
  induction entries with
  | nil => simp [set, lookup, Ne.symm distinct]
  | cons entry entries ih =>
      by_cases same : entry.1 = .text key
      · simp [set, lookup, same, Ne.symm distinct]
      · simp [set, lookup, same, ih]

theorem mem_set {key : Text} {value : Value} {entries : Entries} {entry : Value × Value}
    (member : entry ∈ set key value entries) : entry.1 = .text key ∨ entry ∈ entries := by
  induction entries with
  | nil =>
      cases List.mem_singleton.mp member
      exact .inl rfl
  | cons first entries ih =>
      obtain ⟨found, old⟩ := first
      rw [set] at member
      split at member
      · next same =>
          rcases List.mem_cons.mp member with rfl | behind
          · exact .inl same
          · exact .inr (List.mem_cons_of_mem _ behind)
      · rcases List.mem_cons.mp member with rfl | behind
        · exact .inr List.mem_cons_self
        · exact (ih behind).imp_right (List.mem_cons_of_mem _)

/-- The entries with those of another mapping added or replaced. -/
def update (entries : Entries) (others : Entries) : Entries :=
  others.foldl (fun entries (key, value) => entries.insert key value) entries

/-- Entries given in order, equal keys brought together. -/
def ofList (entries : Entries) : Entries :=
  update [] entries

end Stencil.Entries
