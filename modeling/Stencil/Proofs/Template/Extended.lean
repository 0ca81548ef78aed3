import Stencil.Proofs.Template.Made

/-!
# Contexts with one more name

Entries are extended by a value under a name that none of them has.  All other
names stand for the same before and after, also when more entries are set, and
the same names are bound in a loop besides the new one, unless its value has no
text.
-/

namespace Stencil

namespace Entries

variable {name : Text} {value : Value} {entries more : Entries}

/-- Entries, and the same with one more, under a name that none of them has. -/
inductive Extends (name : Text) (value : Value) : Entries → Entries → Prop where
  | here {entries : Entries} (absent : ∀ entry ∈ entries, entry.1 ≠ .text name) :
      Extends name value entries ((.text name, value) :: entries)
  | there {entry : Value × Value} {entries more : Entries} (differs : entry.1 ≠ .text name)
      (later : Extends name value entries more) :
      Extends name value (entry :: entries) (entry :: more)

namespace Extends

theorem absent (wider : Extends name value entries more) :
    ∀ entry ∈ entries, entry.1 ≠ .text name := by
  induction wider with
  | here absent => exact absent
  | there differs _ ih => exact List.forall_mem_cons.mpr ⟨differs, ih⟩

theorem lookup_eq (wider : Extends name value entries more) {key : Text}
    (differs : key ≠ name) : lookup key more = lookup key entries := by
  induction wider with
  | here _ =>
      rw [lookup, if_neg]
      intro same
      injection same with same
      exact differs same.symm
  | there _ _ ih => rw [lookup, lookup, ih]

theorem set_absent (absent : ∀ entry ∈ entries, entry.1 ≠ .text name) (value : Value) :
    Extends name value entries (set name value entries) := by
  induction entries with
  | nil => exact .here absent
  | cons entry entries ih =>
      rw [List.forall_mem_cons] at absent
      rw [set, if_neg absent.1]
      exact .there absent.1 (ih absent.2)

theorem set_self (wider : Extends name value entries more) (content : Value) :
    Extends name content entries (set name content more) := by
  induction wider with
  | here absent =>
      rw [set, if_pos rfl]
      exact .here absent
  | there differs _ ih =>
      rw [set, if_neg differs]
      exact .there differs ih

theorem forall_mem_set_of_ne (absent : ∀ entry ∈ entries, entry.1 ≠ .text name) {key : Text}
    (differs : Value.text key ≠ .text name) (content : Value) :
    ∀ entry ∈ set key content entries, entry.1 ≠ .text name := by
  induction entries with
  | nil =>
      intro entry member
      rw [List.mem_singleton.mp member]
      exact differs
  | cons entry entries ih =>
      rw [List.forall_mem_cons] at absent
      rw [set]
      split
      · exact List.forall_mem_cons.mpr absent
      · exact List.forall_mem_cons.mpr ⟨absent.1, ih absent.2⟩

theorem set_of_ne (wider : Extends name value entries more) {key : Text}
    (differs : key ≠ name) (content : Value) :
    Extends name value (set key content entries) (set key content more) := by
  have distinct : Value.text key ≠ .text name := by
    intro same
    injection same with same
    exact differs same
  induction wider with
  | here absent =>
      rw [set, if_neg (Ne.symm distinct)]
      exact .here (forall_mem_set_of_ne absent distinct content)
  | there apart later ih =>
      rw [set, set]
      split
      · exact .there apart later
      · exact .there apart ih

end Extends

end Entries

/-- Whether a value has no text for a reason; a mapping needs none, since it is
not bound. -/
def Value.LacksText (value : Value) (fault : Fault) : Prop :=
  value.isMapping = false ∧ value.display = .error fault

theorem Value.not_lacksText_of_isMapping {value : Value} (mapping : value.isMapping = true)
    (fault : Fault) : ¬ value.LacksText fault := by
  rintro ⟨shown, _⟩
  rw [mapping] at shown
  exact absurd shown (by decide)

namespace Loop

variable {name : Text} {value : Value} {entries more : Entries}

theorem nameBinding_text_cases (name : Text) (shown : value.isMapping = false) :
    (∃ text, nameBinding (.text name, value) = .ok (name, text) ∧
        ∀ fault, ¬ value.LacksText fault) ∨
      ∃ fault, nameBinding (.text name, value) = .error fault ∧ value.LacksText fault := by
  rw [nameBinding]
  cases display : value.display with
  | error fault => exact .inr ⟨fault, rfl, shown, display⟩
  | ok text =>
      refine .inl ⟨text, rfl, ?_⟩
      rintro fault ⟨_, noText⟩
      rw [display] at noText
      exact absurd noText (by simp)

theorem nameBindings_cons_of_isMapping {entry : Value × Value} (entries : Entries)
    (mapping : entry.2.isMapping = true) :
    nameBindings (entry :: entries) = nameBindings entries := by
  rw [nameBindings, nameBindings, List.filter_cons_of_neg (by simp [mapping])]

theorem nameBindings_cons {entry : Value × Value} (entries : Entries)
    (shown : entry.2.isMapping = false) :
    nameBindings (entry :: entries) = (do
      let first ← nameBinding entry
      let later ← nameBindings entries
      return first :: later) := by
  rw [nameBindings, nameBindings, List.filter_cons_of_pos (by simp [shown]), List.mapM_cons]
  rfl

/-- One more name is bound besides the others, or its value has no text. -/
theorem nameBindings_of_extends (wider : Entries.Extends name value entries more) :
    (∃ names others, nameBindings entries = .ok names ∧ nameBindings more = .ok others ∧
        besides name others = besides name names ∧
        ∀ fault, ¬ value.LacksText fault) ∨
      ∃ fault, nameBindings more = .error fault ∧
        (nameBindings entries = .error fault ∨ value.LacksText fault) := by
  induction wider with
  | @here entries _ =>
      cases mapping : value.isMapping with
      | true =>
          rw [nameBindings_cons_of_isMapping entries mapping]
          cases nameBindings entries with
          | ok names =>
              exact .inl ⟨names, names, rfl, rfl, rfl, Value.not_lacksText_of_isMapping mapping⟩
          | error fault => exact .inr ⟨fault, rfl, .inl rfl⟩
      | false =>
          rw [nameBindings_cons entries mapping]
          rcases nameBinding_text_cases name mapping with
            ⟨text, bound, clear⟩ | ⟨fault, failed, lacks⟩
          · rw [bound]
            cases nameBindings entries with
            | error fault => exact .inr ⟨fault, rfl, .inl rfl⟩
            | ok names =>
                exact .inl ⟨names, (name, text) :: names, rfl, rfl,
                  besides_cons_self text names, clear⟩
          · rw [failed]
            exact .inr ⟨fault, rfl, .inr lacks⟩
  | @there entry entries more _ _ ih =>
      cases mapping : entry.2.isMapping with
      | true =>
          rw [nameBindings_cons_of_isMapping entries mapping,
            nameBindings_cons_of_isMapping more mapping]
          exact ih
      | false =>
          rw [nameBindings_cons entries mapping, nameBindings_cons more mapping]
          cases nameBinding entry with
          | error fault => exact .inr ⟨fault, rfl, .inl rfl⟩
          | ok binding =>
              rcases ih with ⟨names, others, small, large, same, clear⟩ | ⟨fault, failed, why⟩
              · rw [small, large]
                exact .inl ⟨binding :: names, binding :: others, rfl, rfl,
                  besides_cons_congr binding same, clear⟩
              · rw [failed]
                refine .inr ⟨fault, rfl, why.imp (fun here => ?_) id⟩
                rw [here]
                rfl

end Loop

end Stencil
