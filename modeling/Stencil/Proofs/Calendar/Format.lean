import Mathlib.Algebra.Ring.Nat
import Stencil.Calendar.Format
import Stencil.Proofs.Number.Numeral
import Stencil.Proofs.Text.Replacement

/-!
# The tokens of a format

Every field of a moment is written with as many digits as its token has letters, and
no two tokens have a letter in common.  So the tokens of a format do not interfere: the
format is written as if all of them were replaced at once where they stand in the
format.
-/

namespace Stencil

namespace Text

section Padded

variable {width number : Nat}

theorem length_padded (places : 0 < width) (few : number < 10 ^ width) :
    (padded width number).length = width := by
  have digits : (ofNat number).length ≤ width :=
    (Nat.length_toDigits_le_iff (by decide) places).mpr few
  rw [padded, List.length_append, List.length_replicate]
  omega

theorem padded_ne_nil : padded width number ≠ [] :=
  List.append_ne_nil_of_right_ne_nil _ Nat.toDigits_ne_nil

theorem mem_decimalDigits_of_mem_padded {char : Char} (member : char ∈ padded width number) :
    char ∈ decimalDigits := by
  rcases List.mem_append.mp member with zero | digit
  · rw [List.eq_of_mem_replicate zero]
    decide
  · exact mem_decimalDigits_of_mem_ofNat digit

end Padded

end Text

namespace Date

variable (date : Date)

theorem year_lt : date.year < 10 ^ 4 := by
  have := date.valid
  omega

theorem month_lt : date.month < 10 ^ 2 := by
  have := date.valid
  omega

theorem day_le : date.day ≤ 31 := by
  obtain ⟨_, ⟨_, last⟩, _, within⟩ := date.valid
  have all : ∀ month, month < 12 →
      [31, 29, 31, 30, 31, 30, 31, 31, 30, 31, 30, 31].getD month 0 ≤ 31 ∧
        [31, 28, 31, 30, 31, 30, 31, 31, 30, 31, 30, 31].getD month 0 ≤ 31 := by decide
  have most := all (date.month - 1) (by omega)
  refine within.trans ?_
  rw [Calendar.daysInMonth, Calendar.monthLengths]
  split
  · exact most.1
  · exact most.2

theorem day_lt : date.day < 10 ^ 2 :=
  Nat.lt_of_le_of_lt date.day_le (by decide)

end Date

namespace Moment

def tokenWords : List Text :=
  ["YYYY".toList, "MM".toList, "DD".toList, "HH".toList, "mm".toList, "ss".toList]

variable (moment : Moment)

theorem map_fst_tokens : moment.tokens.map Prod.fst = tokenWords := rfl

theorem fields_fit : ∀ entry ∈ moment.tokens, entry.2.length = entry.1.length := by
  have clock := moment.clock.valid
  simp only [tokens, List.forall_mem_cons, List.not_mem_nil, false_implies, implies_true, and_true,
    List.length_cons, List.length_nil]
  refine ⟨?_, ?_, ?_, ?_, ?_, ?_⟩
  · exact Text.length_padded (by decide) moment.date.year_lt
  · exact Text.length_padded (by decide) moment.date.month_lt
  · exact Text.length_padded (by decide) moment.date.day_lt
  all_goals exact Text.length_padded (by decide) (by omega)

theorem mem_decimalDigits_of_mem_field {entry : Text × Text} (member : entry ∈ moment.tokens)
    {char : Char} (digit : char ∈ entry.2) : char ∈ Text.decimalDigits := by
  simp only [tokens, List.mem_cons, List.not_mem_nil, or_false] at member
  rcases member with rfl | rfl | rfl | rfl | rfl | rfl
  all_goals exact Text.mem_decimalDigits_of_mem_padded digit

theorem independent_tokens : Text.Independent moment.tokens where
  fits entry member := by
    refine ⟨?_, moment.fields_fit entry member⟩
    simp only [tokens, List.mem_cons, List.not_mem_nil, or_false] at member
    rcases member with rfl | rfl | rfl | rfl | rfl | rfl
    all_goals exact List.cons_ne_nil _ _
  apart := by
    have letters : tokenWords.Pairwise fun first second =>
        first.all (fun char => decide (char ∉ second)) = true := by decide
    rw [← moment.map_fst_tokens, List.pairwise_map] at letters
    exact letters.imp fun disjoint char inFirst => Text.forall_of_all disjoint char inFirst
  clean entry member other known char digit letter := by
    have noDigit : ∀ token ∈ tokenWords,
        Text.decimalDigits.all (fun char => decide (char ∉ token)) = true := by decide
    exact Text.forall_of_all (noDigit other.1 (moment.map_fst_tokens ▸ List.mem_map_of_mem known))
      char (moment.mem_decimalDigits_of_mem_field member digit) letter

/-- A format is written with the first occurrences of all tokens replaced by their
fields at once.  The order in which the tokens are replaced is of no importance: a
replacement leaves the first occurrences of the other tokens, in whatever text, where
they are.  All other characters stay in their places. -/
theorem format_eq_replaceAtOnce (format : Text) :
    moment.format format = Text.replaceAtOnce moment.tokens format ∧
      (∀ order : List (Text × Text), order.Perm moment.tokens →
        Text.replaceInTurn order format = moment.format format) ∧
      (∀ entry ∈ moment.tokens, ∀ other ∈ moment.tokens, entry ≠ other → ∀ text,
        Text.firstAt? other.1 (Text.replaceFirst entry.1 entry.2 text) =
          Text.firstAt? other.1 text) ∧
      (moment.format format).length = format.length ∧
      ∀ position, (∀ entry ∈ moment.tokens,
          Text.isWithinFirst entry.1 format position = false) →
        (moment.format format)[position]? = format[position]? := by
  have independent := moment.independent_tokens
  refine ⟨independent.replaceInTurn_eq format, ?_, ?_, independent.length_replaceInTurn format, ?_⟩
  · intro order reordered
    exact independent.replaceInTurn_perm reordered format
  · intro entry member other known differ text
    exact independent.firstAt?_replaceFirst member known differ text
  · intro position outside
    exact independent.getElem?_replaceInTurn outside

/-- Runs of letters that are longer than a token, and tokens that occur twice. -/
theorem format_runs :
    let moment : Moment := ⟨⟨2024, 3, 5, by decide⟩, ⟨14, 7, 9, 0, by decide⟩⟩
    let format := "sss MMM mmHHH YYYYY DD DD".toList
    let written := "09s 03M 0714H 2024Y 05 DD".toList
    moment.format format = written ∧
      Text.replaceInTurn moment.tokens.reverse format = written ∧
      Text.firstAt? "HH".toList (Text.replaceFirst "mm".toList "07".toList format) = some 10 ∧
      written[12]? = some 'H' := by
  intro moment format written
  obtain ⟨_, inAnyOrder, unmoved, _, kept⟩ := moment.format_eq_replaceAtOnce format
  have whole : moment.format format = written := by decide
  refine ⟨whole, whole ▸ inAnyOrder _ (List.reverse_perm _), ?_, ?_⟩
  · exact (unmoved ("mm".toList, "07".toList) (by decide) ("HH".toList, "14".toList) (by decide)
      (by decide) format).trans (by decide)
  · exact whole ▸ kept 12 (by decide)

end Moment

end Stencil
