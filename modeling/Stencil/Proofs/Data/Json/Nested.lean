import Stencil.Proofs.Data.Json.Scalar

/-!
# Collections in JSON

The reader is described by what it does with a text in front of whatever can follow a value.
The texts of the parts of a collection are then read one behind the other, with separators
between them: a comma or a closing mark ends each of them, and none is longer than what is left
of the reader's count.  Entries with keys that differ stay in the order in which they are read.
-/

namespace Stencil

namespace Entries

theorem hasKey_cons (key : Text) (entry : Value × Value) (entries : Entries) :
    hasKey key (entry :: entries) = (decide (entry.1 = .text key) || hasKey key entries) :=
  List.any_cons

theorem hasKey_append (key : Text) (first later : Entries) :
    hasKey key (first ++ later) = (hasKey key first || hasKey key later) :=
  List.any_append

theorem set_of_not_hasKey {key : Text} {entries : Entries} (unused : hasKey key entries = false)
    (value : Value) : set key value entries = entries ++ [(.text key, value)] := by
  induction entries with
  | nil => rfl
  | cons entry entries ih =>
      obtain ⟨found, old⟩ := entry
      rw [hasKey_cons, Bool.or_eq_false_iff, decide_eq_false_iff_not] at unused
      rw [set, if_neg unused.1, ih unused.2]
      rfl

/-- Entries have no key in common with others. -/
def Apart (entries others : Entries) : Prop :=
  ∀ key, hasKey key entries = true → hasKey key others = false

theorem apart_nil (others : Entries) : Apart [] others := by
  intro key used
  cases used

section Apart

variable {entries others : Entries} {key : Text} {value : Value}

theorem Apart.unused (apart : Apart entries ((.text key, value) :: others)) :
    hasKey key entries = false := by
  by_contra used
  have none := apart key (Bool.of_not_eq_false used)
  rw [hasKey_cons, decide_eq_true rfl, Bool.true_or] at none
  exact absurd none (by decide)

/-- The first of the other entries can be moved behind the entries if its key does not occur
again. -/
theorem Apart.step (apart : Apart entries ((.text key, value) :: others))
    (fresh : hasKey key others = false) : Apart (entries ++ [(.text key, value)]) others := by
  intro other used
  rw [hasKey_append, Bool.or_eq_true] at used
  rcases used with before | this
  · have none := apart other before
    rw [hasKey_cons, Bool.or_eq_false_iff] at none
    exact none.2
  · have same : key = other := by simpa [hasKey] using this
    exact same ▸ fresh

end Apart

end Entries

namespace Json

/-- A text begins with a character that is neither white space nor the end of a list, so the
reader does not go past it and does not take the list for empty. -/
def Starts (text : Text) : Prop :=
  ∃ char later, text = char :: later ∧ isSpace char = false ∧ char ≠ ']'

theorem starts_cons {char : Char} (solid : isSpace char = false) (opens : char ≠ ']')
    (later : Text) : Starts (char :: later) :=
  ⟨char, later, rfl, solid, opens⟩

theorem Starts.append {text : Text} (starts : Starts text) (rest : Text) :
    Starts (text ++ rest) := by
  obtain ⟨char, later, rfl, solid, opens⟩ := starts
  exact ⟨char, later ++ rest, rfl, solid, opens⟩

theorem skipSpace_cons {char : Char} (solid : isSpace char = false) (later : Text) :
    skipSpace (char :: later) = char :: later := by
  rw [skipSpace, List.dropWhile_cons_of_neg (by simp [solid])]

theorem Starts.skipSpace {text : Text} (starts : Starts text) : skipSpace text = text := by
  obtain ⟨char, later, rfl, solid, _⟩ := starts
  exact skipSpace_cons solid later

/-- A text is read as a value in front of whatever can follow one, if the reader's count is
at least its length. -/
structure ReadsAs (text : Text) (value : Value) : Prop where
  shown : Text.isShown text = true
  starts : Starts text
  read : ∀ {fuel : Nat} {rest : Text}, text.length ≤ fuel → Ends rest →
    readValue fuel (text ++ rest) = .ok (value, rest)

theorem Starts.length_pos {text : Text} (starts : Starts text) : 0 < text.length := by
  obtain ⟨char, later, rfl, _⟩ := starts
  exact Nat.zero_lt_succ _

theorem readsAs_of_succ {text : Text} {value : Value} (shown : Text.isShown text = true)
    (starts : Starts text)
    (read : ∀ fuel rest, text.length ≤ fuel + 1 → Ends rest →
      readValue (fuel + 1) (text ++ rest) = .ok (value, rest)) : ReadsAs text value where
  shown := shown
  starts := starts
  read := by
    intro fuel rest enough ends
    cases fuel with
    | zero => exact absurd (Nat.le_zero.mp enough) starts.length_pos.ne'
    | succ fuel => exact read fuel rest enough ends

section Scalars

theorem readsAs_null : ReadsAs "null".toList .null :=
  readsAs_of_succ (by decide) (starts_cons (by decide) (by decide) _) fun _ _ _ _ => rfl

theorem readsAs_bool (value : Bool) :
    ReadsAs (if value then "true".toList else "false".toList) (.bool value) := by
  cases value with
  | true =>
      apply readsAs_of_succ (by decide) (starts_cons (by decide) (by decide) _)
      exact fun _ _ _ _ => rfl
  | false =>
      apply readsAs_of_succ (by decide) (starts_cons (by decide) (by decide) _)
      exact fun _ _ _ _ => rfl

theorem readsAs_text (text : Text) : ReadsAs (writeText false text) (.text text) := by
  apply readsAs_of_succ (isShown_writeText text) (starts_cons (by decide) (by decide) _)
  intro fuel rest _ _
  have content := readText?_string rest text
  have joined : writeText false text ++ rest =
      '"' :: (text.flatMap (writeChar false) ++ '"' :: rest) := by
    simp [writeText]
  rw [joined, readValue]
  simp only [content]

/-- A digit begins a number and no other value. -/
theorem readValue_digit {digit : Char} (member : digit ∈ Text.decimalDigits) (fuel : Nat)
    (rest : Text) : readValue (fuel + 1) (digit :: rest) = readNumber false (digit :: rest) := by
  simp only [Text.decimalDigits, List.mem_cons, List.not_mem_nil, or_false] at member
  rcases member with rfl | rfl | rfl | rfl | rfl | rfl | rfl | rfl | rfl | rfl <;> rfl

theorem readValue_minus {digit : Char} (member : digit ∈ Text.decimalDigits) (fuel : Nat)
    (rest : Text) :
    readValue (fuel + 1) ('-' :: digit :: rest) = readNumber true (digit :: rest) := by
  simp only [Text.decimalDigits, List.mem_cons, List.not_mem_nil, or_false] at member
  rcases member with rfl | rfl | rfl | rfl | rfl | rfl | rfl | rfl | rfl | rfl <;> rfl

theorem readsAs_int {number : Int} (short : Value.isShort number = true) :
    ReadsAs (Text.ofInt number) (.int number) := by
  have small : number.natAbs < Nat.pow 10 maxDigits := by simpa [Value.isShort] using short
  obtain ⟨digit, member, later, written⟩ := Text.exists_ofNat_eq_cons number.natAbs
  have solid : ∀ digit ∈ Text.decimalDigits, isSpace digit = false ∧ digit ≠ ']' :=
    Text.forall_of_all (by decide)
  by_cases negative : number < 0
  · have form : Text.ofInt number = '-' :: Text.ofNat number.natAbs := by
      rw [Text.ofInt, if_pos negative]
    have value : -(number.natAbs : Int) = number := by omega
    apply readsAs_of_succ (Text.isShown_ofInt number)
    · rw [form]
      exact starts_cons (by decide) (by decide) _
    · intro fuel rest _ ends
      have read := readNumber_ofNat true small ends
      rw [if_pos rfl, value] at read
      rw [form, ← read, written]
      exact readValue_minus member fuel (later ++ rest)
  · have form : Text.ofInt number = Text.ofNat number.natAbs := by
      rw [Text.ofInt, if_neg negative]
    have value : (number.natAbs : Int) = number := by omega
    apply readsAs_of_succ (Text.isShown_ofInt number)
    · rw [form, written]
      exact starts_cons (solid digit member).1 (solid digit member).2 _
    · intro fuel rest _ ends
      have read := readNumber_ofNat false small ends
      rw [if_neg Bool.false_ne_true, value] at read
      rw [form, ← read, written]
      exact readValue_digit member fuel (later ++ rest)

end Scalars

section Lists

theorem join_cons {part : Text} {parts : List Text} (more : parts ≠ []) :
    Text.join [','] (part :: parts) = part ++ ',' :: Text.join [','] parts := by
  cases parts with
  | nil => exact absurd rfl more
  | cons next parts => rw [Text.join, List.append_assoc]; rfl

theorem isShown_join {parts : List Text} (shown : ∀ part ∈ parts, Text.isShown part = true) :
    Text.isShown (Text.join [','] parts) = true := by
  induction parts with
  | nil => rfl
  | cons part parts ih =>
      have here := shown part List.mem_cons_self
      have later := ih fun other member => shown other (List.mem_cons_of_mem part member)
      by_cases last : parts = []
      · subst last
        exact here
      · rw [join_cons last, Text.isShown_append, Text.isShown_cons, here, later]
        rfl

theorem shown_of_each {parts : List Text} {values : List Value}
    (each : List.Forall₂ ReadsAs parts values) : ∀ part ∈ parts, Text.isShown part = true := by
  induction each with
  | nil => exact List.forall_mem_nil _
  | cons first _ ih => exact List.forall_mem_cons.mpr ⟨first.shown, ih⟩

theorem readsAs_ints {numbers : List Int} (short : numbers.all Value.isShort = true) :
    List.Forall₂ ReadsAs (numbers.map Text.ofInt) (numbers.map .int) := by
  induction numbers with
  | nil => exact .nil
  | cons number numbers ih =>
      rw [List.all_cons, Bool.and_eq_true] at short
      exact .cons (readsAs_int short.1) (ih short.2)

theorem starts_join {parts : List Text} {values : List Value}
    (each : List.Forall₂ ReadsAs parts values) (nonempty : parts ≠ []) :
    Starts (Text.join [','] parts) := by
  cases each with
  | nil => exact absurd rfl nonempty
  | @cons _ _ parts _ first _ =>
      by_cases last : parts = []
      · subst last
        exact first.starts
      · rw [join_cons last]
        exact first.starts.append _

/-- An item is read, and then what ends it. -/
theorem readItems_item {fuel : Nat} {text rest : Text} {value : Value}
    (reads : ReadsAs text value) (enough : text.length ≤ fuel) (ends : Ends rest) :
    readItems (fuel + 1) (text ++ rest) =
      (match skipSpace rest with
      | ']' :: rest => .ok ([value], rest)
      | ',' :: rest => (readItems fuel (skipSpace rest)).map fun (items, rest) =>
          (value :: items, rest)
      | _ => .error .malformed) := by
  rw [readItems, reads.read enough ends]
  rfl

/-- The items of a list are read one behind the other, up to its bracket. -/
theorem readItems_join {parts : List Text} {values : List Value}
    (each : List.Forall₂ ReadsAs parts values) (nonempty : parts ≠ []) {fuel : Nat}
    (enough : (Text.join [','] parts).length < fuel) (rest : Text) :
    readItems fuel (Text.join [','] parts ++ ']' :: rest) = .ok (values, rest) := by
  induction each generalizing fuel with
  | nil => exact absurd rfl nonempty
  | @cons part value parts values first others ih =>
      cases fuel with
      | zero => exact absurd enough (Nat.not_lt_zero _)
      | succ fuel =>
          by_cases last : parts = []
          · subst last
            cases others
            have short : part.length ≤ fuel := Nat.lt_succ_iff.mp enough
            rw [Text.join, readItems_item first short (ends_cons (by decide) rest),
              skipSpace_cons (by decide)]
            rfl
          · rw [join_cons last] at enough ⊢
            have short : part.length ≤ fuel ∧ (Text.join [','] parts).length < fuel := by
              simp only [List.length_append, List.length_cons] at enough
              omega
            have more := ih last short.2
            have front := ((starts_join others last).append (']' :: rest)).skipSpace
            rw [List.append_assoc, List.cons_append,
              readItems_item first short.1 (ends_cons (by decide) _), skipSpace_cons (by decide)]
            simp only [front, more]
            rfl

theorem readValue_bracket {fuel : Nat} {text rest : Text} {items : List Value}
    (starts : Starts text) (read : readItems fuel text = .ok (items, rest)) :
    readValue (fuel + 1) ('[' :: text) = .ok (.list 0 items, rest) := by
  have front := starts.skipSpace
  obtain ⟨char, later, rfl, _, opens⟩ := starts
  rw [readValue, front]
  split
  · next same => exact absurd (List.cons.inj same).1 opens
  · rw [read]
    rfl

theorem readsAs_list {parts : List Text} {values : List Value}
    (each : List.Forall₂ ReadsAs parts values) :
    ReadsAs ('[' :: Text.join [','] parts ++ [']']) (.list 0 values) := by
  apply readsAs_of_succ
  · rw [List.cons_append, Text.isShown_cons, Text.isShown_append, isShown_join (shown_of_each each)]
    rfl
  · exact starts_cons (by decide) (by decide) _
  · intro fuel rest enough _
    have joined : '[' :: Text.join [','] parts ++ [']'] ++ rest =
        '[' :: (Text.join [','] parts ++ ']' :: rest) := by simp
    rw [joined]
    by_cases empty : parts = []
    · subst empty
      cases each
      rfl
    · have within : (Text.join [','] parts).length < fuel := by
        simp only [List.length_append, List.length_cons, List.length_nil] at enough
        omega
      have front := (starts_join each empty).append (']' :: rest)
      exact readValue_bracket front (readItems_join each empty within rest)

end Lists

section Mappings

/-- Texts of entries, each of them read as its entry; no key occurs again behind its
entry. -/
inductive EntriesReadAs : List Text → Entries → Prop where
  | nil : EntriesReadAs [] []
  | cons {name text : Text} {value : Value} {parts : List Text} {entries : Entries}
      (reads : ReadsAs text value) (fresh : Entries.hasKey name entries = false)
      (later : EntriesReadAs parts entries) :
      EntriesReadAs ((writeText false name ++ [':'] ++ text) :: parts)
        ((.text name, value) :: entries)

theorem shown_of_entries {parts : List Text} {entries : Entries}
    (each : EntriesReadAs parts entries) : ∀ part ∈ parts, Text.isShown part = true := by
  induction each with
  | nil => exact List.forall_mem_nil _
  | @cons name _ _ _ _ reads _ _ ih =>
      refine List.forall_mem_cons.mpr ⟨?_, ih⟩
      rw [Text.isShown_append, Text.isShown_append, isShown_writeText name, reads.shown]
      rfl

theorem exists_join_eq_cons {parts : List Text} {entries : Entries}
    (each : EntriesReadAs parts entries) (nonempty : parts ≠ []) :
    ∃ later, Text.join [','] parts = '"' :: later := by
  cases each with
  | nil => exact absurd rfl nonempty
  | @cons _ _ _ parts _ _ _ others =>
      by_cases last : parts = []
      · subst last
        exact ⟨_, rfl⟩
      · rw [join_cons last]
        exact ⟨_, rfl⟩

theorem skipSpace_entries {parts : List Text} {entries : Entries}
    (each : EntriesReadAs parts entries) (nonempty : parts ≠ []) (rest : Text) :
    skipSpace (Text.join [','] parts ++ rest) = Text.join [','] parts ++ rest := by
  obtain ⟨later, begins⟩ := exists_join_eq_cons each nonempty
  rw [begins]
  exact skipSpace_cons (by decide) (later ++ rest)

theorem readEntries_entry {fuel : Nat} (earlier : Entries) (name : Text) {text rest : Text}
    {value : Value} (reads : ReadsAs text value) (enough : text.length ≤ fuel)
    (ends : Ends rest) :
    readEntries (fuel + 1) earlier (writeText false name ++ [':'] ++ text ++ rest) =
      (match skipSpace rest with
      | '\x7d' :: rest => .ok (earlier.set name value, rest)
      | ',' :: rest => readEntries fuel (earlier.set name value) (skipSpace rest)
      | _ => .error .malformed) := by
  have key := readText?_string (':' :: (text ++ rest)) name
  have joined : writeText false name ++ [':'] ++ text ++ rest =
      '"' :: (name.flatMap (writeChar false) ++ '"' :: ':' :: (text ++ rest)) := by
    simp [writeText]
  have colon : skipSpace (':' :: (text ++ rest)) = ':' :: (text ++ rest) :=
    skipSpace_cons (by decide) (text ++ rest)
  have front := (reads.starts.append rest).skipSpace
  have read := reads.read enough ends
  rw [joined, readEntries]
  simp only [key, colon, front, read]
  rfl

/-- The entries of a mapping are read one behind the other, up to its brace, and come behind
those that were read before. -/
theorem readEntries_join {parts : List Text} {entries : Entries}
    (each : EntriesReadAs parts entries) (nonempty : parts ≠ []) {fuel : Nat} {earlier : Entries}
    (apart : earlier.Apart entries)
    (enough : (Text.join [','] parts).length < fuel) (rest : Text) :
    readEntries fuel earlier (Text.join [','] parts ++ '\x7d' :: rest) =
      .ok (earlier ++ entries, rest) := by
  induction each generalizing fuel earlier with
  | nil => exact absurd rfl nonempty
  | @cons name text value parts entries reads fresh others ih =>
      cases fuel with
      | zero => exact absurd enough (Nat.not_lt_zero _)
      | succ fuel =>
          have placed := Entries.set_of_not_hasKey apart.unused value
          by_cases last : parts = []
          · subst last
            cases others
            have short : text.length ≤ fuel := by
              simp only [Text.join, List.length_append] at enough
              omega
            rw [Text.join,
              readEntries_entry earlier name reads short (ends_cons (by decide) rest),
              skipSpace_cons (by decide), placed]
            rfl
          · rw [join_cons last] at enough ⊢
            have short : text.length ≤ fuel ∧ (Text.join [','] parts).length < fuel := by
              simp only [List.length_append, List.length_cons] at enough
              omega
            have more := ih last (apart.step fresh) short.2
            have front := skipSpace_entries others last ('\x7d' :: rest)
            rw [List.append_assoc, List.cons_append,
              readEntries_entry earlier name reads short.1 (ends_cons (by decide) _),
              skipSpace_cons (by decide)]
            simp only [front, placed, more]
            rw [List.append_assoc]
            rfl

theorem readValue_brace {fuel : Nat} {text rest : Text} {entries : Entries}
    (read : readEntries fuel [] ('"' :: text) = .ok (entries, rest)) :
    readValue (fuel + 1) ('\x7b' :: '"' :: text) = .ok (.map 0 false entries, rest) := by
  have front : skipSpace ('"' :: text) = '"' :: text := skipSpace_cons (by decide) text
  rw [readValue, front]
  split
  · next same => exact absurd (List.cons.inj same).1 (by decide)
  · rw [read]
    rfl

theorem readsAs_map {parts : List Text} {entries : Entries} (each : EntriesReadAs parts entries) :
    ReadsAs ('\x7b' :: Text.join [','] parts ++ ['\x7d']) (.map 0 false entries) := by
  apply readsAs_of_succ
  · rw [List.cons_append, Text.isShown_cons, Text.isShown_append,
      isShown_join (shown_of_entries each)]
    rfl
  · exact starts_cons (by decide) (by decide) _
  · intro fuel rest enough _
    have joined : '\x7b' :: Text.join [','] parts ++ ['\x7d'] ++ rest =
        '\x7b' :: (Text.join [','] parts ++ '\x7d' :: rest) := by simp
    rw [joined]
    by_cases empty : parts = []
    · subst empty
      cases each
      rfl
    · have within : (Text.join [','] parts).length < fuel := by
        simp only [List.length_append, List.length_cons, List.length_nil] at enough
        omega
      have read := readEntries_join each empty (Entries.apart_nil entries) within rest
      obtain ⟨later, begins⟩ := exists_join_eq_cons each empty
      rw [begins] at read ⊢
      exact readValue_brace read

end Mappings

end Json

end Stencil
