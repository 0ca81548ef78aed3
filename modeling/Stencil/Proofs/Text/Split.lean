import Stencil.Text.Basic

/-!
# Stretches between delimiters

A text splits into the parts that were joined with a delimiter, if none of them
has it.  A text is cut where a needle is found first, whatever follows, and behind
whatever does not hold the needle and is set apart from it.
-/

namespace Stencil.Text

variable {delimiter : Char}

theorem split_of_not_mem {text : Text} (absent : delimiter ∉ text) :
    split delimiter text = [text] := by
  induction text with
  | nil => rfl
  | cons char text ih =>
      have differs : char ≠ delimiter := by
        rintro rfl
        exact absent List.mem_cons_self
      have later := ih fun member => absent (List.mem_cons_of_mem char member)
      simp [split, differs, later]

theorem split_append {first : Text} (absent : delimiter ∉ first) (rest : Text) :
    split delimiter (first ++ delimiter :: rest) = first :: split delimiter rest := by
  induction first with
  | nil => simp [split]
  | cons char first ih =>
      have differs : char ≠ delimiter := by
        rintro rfl
        exact absent List.mem_cons_self
      have later := ih fun member => absent (List.mem_cons_of_mem char member)
      simp [split, differs, later]

theorem split_append_delimiter (first rest : Text) :
    split delimiter (first ++ delimiter :: rest) =
      split delimiter first ++ split delimiter rest := by
  induction first with
  | nil => simp [split]
  | cons char first ih =>
      rw [List.cons_append, split, split]
      split
      · rw [ih, List.cons_append]
      · rw [ih]
        cases stretches : split delimiter first with
        | nil => exact absurd stretches (split_ne_nil delimiter first)
        | cons stretch later => rfl

theorem not_mem_of_mem_split {text stretch : Text} (member : stretch ∈ split delimiter text) :
    delimiter ∉ stretch := by
  induction text generalizing stretch with
  | nil =>
      rw [split, List.mem_singleton] at member
      rw [member]
      exact List.not_mem_nil
  | cons char text ih =>
      rw [split] at member
      split at member
      · rcases List.mem_cons.mp member with rfl | later
        · exact List.not_mem_nil
        · exact ih later
      · next differs =>
          cases stretches : split delimiter text with
          | nil => exact absurd stretches (split_ne_nil delimiter text)
          | cons first later =>
              rw [stretches] at member ih
              rcases List.mem_cons.mp member with rfl | there
              · intro inside
                rcases List.mem_cons.mp inside with rfl | within
                · exact differs rfl
                · exact ih List.mem_cons_self within
              · exact ih (List.mem_cons_of_mem first there)

/-- Parts without the delimiter can be read off what they are joined to. -/
theorem split_join {parts : List Text} (nonempty : parts ≠ [])
    (absent : ∀ part ∈ parts, delimiter ∉ part) :
    split delimiter (join [delimiter] parts) = parts := by
  induction parts with
  | nil => exact absurd rfl nonempty
  | cons part later ih =>
      have here := absent part List.mem_cons_self
      cases later with
      | nil => exact split_of_not_mem here
      | cons next later =>
          rw [join, List.append_assoc, List.singleton_append, split_append here,
            ih (by simp) fun other member => absent other (List.mem_cons_of_mem part member)]

theorem infix_join (separator : Text) {parts : List Text} {part : Text} (member : part ∈ parts) :
    part <:+: join separator parts := by
  induction parts with
  | nil => exact absurd member List.not_mem_nil
  | cons first later ih =>
      cases later with
      | nil =>
          rw [List.mem_singleton.mp member]
          exact List.infix_refl first
      | cons next later =>
          rw [join]
          rcases List.mem_cons.mp member with rfl | behind
          · rw [List.append_assoc]
            exact (List.prefix_append part _).isInfix
          · exact (ih behind).trans (List.suffix_append _ _).isInfix

theorem infix_of_mem_split {delimiter : Char} {text part : Text}
    (member : part ∈ split delimiter text) : part <:+: text := by
  have inside := infix_join [delimiter] member
  rwa [join_split] at inside

theorem exists_mem_split_of_mem {text : Text} {char : Char} (differs : char ≠ delimiter)
    (member : char ∈ text) : ∃ stretch ∈ split delimiter text, char ∈ stretch := by
  rw [← join_split delimiter text] at member
  generalize split delimiter text = stretches at member
  induction stretches with
  | nil => exact absurd member List.not_mem_nil
  | cons stretch later ih =>
      cases later with
      | nil => exact ⟨stretch, List.mem_cons_self, member⟩
      | cons next later =>
          rw [join] at member
          rcases List.mem_append.mp member with front | behind
          · rcases List.mem_append.mp front with here | between
            · exact ⟨stretch, List.mem_cons_self, here⟩
            · exact absurd (List.mem_singleton.mp between) differs
          · obtain ⟨found, inside, holds⟩ := ih behind
            exact ⟨found, List.mem_cons_of_mem stretch inside, holds⟩

theorem join_append {separator : Text} {first later : List Text} (before : first ≠ [])
    (after : later ≠ []) :
    join separator (first ++ later) =
      join separator first ++ separator ++ join separator later := by
  induction first with
  | nil => exact absurd rfl before
  | cons part first ih =>
      cases first with
      | nil =>
          cases later with
          | nil => exact absurd rfl after
          | cons next later => rfl
      | cons next first =>
          have rest := ih (by simp)
          rw [List.cons_append] at rest
          rw [List.cons_append, List.cons_append, join, rest, join]
          simp

/-- A cut is the same if more follows. -/
theorem cut?_append {needle text before rest : Text}
    (found : cut? needle text = some (before, rest)) (more : Text) :
    cut? needle (text ++ more) = some (before, rest ++ more) := by
  induction text generalizing before with
  | nil =>
      have whole := eq_append_of_cut? found
      obtain ⟨emptyBefore, none⟩ := List.append_eq_nil_iff.mp whole.symm
      obtain ⟨rfl, rfl⟩ := List.append_eq_nil_iff.mp emptyBefore
      subst none
      cases more <;> rfl
  | cons char text ih =>
      have whole := eq_append_of_cut? found
      rw [cut?] at found
      rw [List.cons_append, cut?]
      cases here : after? needle (char :: text) with
      | some tail =>
          rw [here] at found
          cases found
          have there : after? needle (char :: (text ++ more)) = some (rest ++ more) := by
            rw [after?_eq_some_iff] at here ⊢
            rw [← List.cons_append, here, List.append_assoc]
          rw [there]
      | none =>
          rw [here] at found
          simp only [Option.map_eq_some_iff, Prod.mk.injEq, Prod.exists] at found
          obtain ⟨earlier, tail, later, rfl, rfl⟩ := found
          -- What was too short for the needle is so no longer, but the needle comes later.
          have none : after? needle (char :: (text ++ more)) = none := by
            cases sooner : after? needle (char :: (text ++ more)) with
            | none => rfl
            | some tail =>
                rw [after?_eq_some_iff, ← List.cons_append] at sooner
                rcases List.append_eq_append_iff.mp sooner with ⟨lack, long, _⟩ | ⟨_, fits, _⟩
                · have lengths := congrArg List.length whole
                  have longer := congrArg List.length long
                  simp only [List.length_append, List.length_cons] at lengths longer
                  omega
                · rw [after?_eq_some_iff.mpr fits] at here
                  exact absurd here (by simp)
          rw [none, ih later]
          rfl

theorem prefix_of_split {delimiter : Char} {text first : Text} {later : List Text}
    (split : split delimiter text = first :: later) : first <+: text := by
  have whole := join_split delimiter text
  rw [split] at whole
  rw [← whole]
  cases later with
  | nil => exact List.prefix_refl first
  | cons next later =>
      rw [join, List.append_assoc]
      exact List.prefix_append first _

theorem not_infix_of_cut? {needle text before rest : Text} (nonempty : needle ≠ [])
    (found : cut? needle text = some (before, rest)) : ¬ needle <:+: before := by
  induction text generalizing before with
  | nil =>
      obtain ⟨first, _⟩ := List.append_eq_nil_iff.mp (eq_append_of_cut? found).symm
      exact absurd (List.append_eq_nil_iff.mp first).2 nonempty
  | cons char text ih =>
      have whole := eq_append_of_cut? found
      rw [cut?] at found
      split at found
      · cases found
        rw [List.infix_nil]
        exact nonempty
      · rename_i none
        simp only [Option.map_eq_some_iff, Prod.mk.injEq, Prod.exists] at found
        obtain ⟨earlier, tail, later, rfl, rfl⟩ := found
        intro inside
        rcases List.infix_cons_iff.mp inside with ⟨behind, starts⟩ | further
        · rw [List.append_assoc, ← starts, List.append_assoc] at whole
          rw [after?_eq_some_iff.mpr whole] at none
          exact absurd none (by simp)
        · exact ih later further

theorem after?_append_cases (head text tail : Text) :
    (∃ rest, after? head text = some rest ∧ after? head (text ++ tail) = some (rest ++ tail)) ∨
      after? head text = none ∧ ∀ rest, after? head (text ++ tail) = some rest →
        ∃ missing, missing ≠ [] ∧ head = text ++ missing ∧ tail = missing ++ rest := by
  cases here : after? head text with
  | some rest =>
      rw [after?_eq_some_iff] at here
      subst here
      exact .inl ⟨rest, rfl, after?_eq_some_iff.mpr (by simp)⟩
  | none =>
      refine .inr ⟨rfl, fun rest there => ?_⟩
      rw [after?_eq_some_iff] at there
      rcases List.append_eq_append_iff.mp there with ⟨missing, longer, short⟩ | ⟨more, fits, _⟩
      · refine ⟨missing, ?_, longer, short⟩
        rintro rfl
        rw [after?_eq_some_iff.mpr (show text = head ++ [] by rw [longer]; simp)] at here
        exact absurd here (by simp)
      · rw [after?_eq_some_iff.mpr fits] at here
        exact absurd here (by simp)

theorem exists_cut?_of_infix {needle text : Text} (inside : needle <:+: text) :
    ∃ before rest, cut? needle text = some (before, rest) := by
  induction text with
  | nil =>
      rw [List.infix_nil.mp inside]
      exact ⟨[], [], rfl⟩
  | cons char text ih =>
      rw [cut?]
      cases here : after? needle (char :: text) with
      | some rest => exact ⟨[], rest, rfl⟩
      | none =>
          rcases List.infix_cons_iff.mp inside with ⟨rest, starts⟩ | later
          · rw [after?_eq_some_iff.mpr starts.symm] at here
            exact absurd here (by simp)
          · obtain ⟨before, rest, found⟩ := ih later
            exact ⟨char :: before, rest, by rw [found]; rfl⟩

theorem cut?_eq_none_iff {needle text : Text} : cut? needle text = none ↔ ¬ needle <:+: text := by
  constructor
  · intro nowhere inside
    obtain ⟨before, rest, found⟩ := exists_cut?_of_infix inside
    rw [nowhere] at found
    exact absurd found (by simp)
  · intro absent
    cases found : cut? needle text with
    | none => rfl
    | some cut => exact absurd ⟨cut.1, cut.2, (eq_append_of_cut? found).symm⟩ absent

theorem cut?_self_append (needle rest : Text) : cut? needle (needle ++ rest) = some ([], rest) := by
  have here : after? needle (needle ++ rest) = some rest := after?_eq_some_iff.mpr rfl
  cases whole : needle ++ rest with
  | nil =>
      rw [whole] at here
      rw [cut?, here]
      rfl
  | cons char text =>
      rw [whole] at here
      rw [cut?, here]

/-- A needle is not found across a character that it lacks: the cut is made behind
that. -/
theorem cut?_append_cons {needle front : Text} {stop : Char} (nonempty : needle ≠ [])
    (absent : stop ∉ needle) (notBefore : ¬ needle <:+: front) (rest : Text) :
    cut? needle (front ++ stop :: rest) =
      (cut? needle rest).map fun (before, after) => (front ++ stop :: before, after) := by
  induction front with
  | nil =>
      have none : after? needle (stop :: rest) = none := by
        cases needle with
        | nil => exact absurd rfl nonempty
        | cons expected needle =>
            have differs : expected ≠ stop := by
              rintro rfl
              exact absent List.mem_cons_self
            rw [after?, if_neg differs]
      rw [List.nil_append, cut?, none]
      rfl
  | cons char front ih =>
      have none : after? needle (char :: front ++ stop :: rest) = none := by
        rcases after?_append_cases needle (char :: front) (stop :: rest) with
          ⟨tail, here, _⟩ | ⟨_, further⟩
        · rw [after?_eq_some_iff] at here
          exact absurd ⟨[], tail, here.symm⟩ notBefore
        · cases found : after? needle (char :: front ++ stop :: rest) with
          | none => rfl
          | some tail =>
              obtain ⟨missing, some, rfl, across⟩ := further tail found
              cases missing with
              | nil => exact absurd rfl some
              | cons first missing =>
                  obtain ⟨rfl, _⟩ := List.cons_eq_cons.mp across
                  exact absurd (List.mem_append_right _ List.mem_cons_self) absent
      have later := ih fun inside => notBefore (inside.trans (List.suffix_cons char front).isInfix)
      rw [List.cons_append] at none
      rw [List.cons_append, cut?, none, later, Option.map_map]
      rfl

theorem cut?_concat {needle : Text} {stop : Char} (nonempty : needle ≠ [])
    (absent : stop ∉ needle) (text : Text) :
    cut? needle (text ++ [stop]) =
      (cut? needle text).map fun (before, after) => (before, after ++ [stop]) := by
  cases found : cut? needle text with
  | some cut => exact cut?_append found [stop]
  | none =>
      have nowhere : cut? needle [] = none :=
        cut?_eq_none_iff.mpr fun inside => nonempty (List.infix_nil.mp inside)
      rw [cut?_append_cons nonempty absent (cut?_eq_none_iff.mp found), nowhere]
      rfl

theorem dropWhile_append_cases (accepts : Char → Bool) (text tail : Text) :
    (text.dropWhile accepts = [] ∧
        (text ++ tail).dropWhile accepts = tail.dropWhile accepts) ∨
      ((text ++ tail).takeWhile accepts = text.takeWhile accepts ∧
        (text ++ tail).dropWhile accepts = text.dropWhile accepts ++ tail) := by
  induction text with
  | nil => exact .inl ⟨rfl, rfl⟩
  | cons char text ih =>
      by_cases accepted : accepts char = true
      · simpa [accepted] using ih
      · simp [accepted]

end Stencil.Text
