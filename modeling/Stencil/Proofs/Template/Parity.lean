import Stencil.Proofs.Data.Equality
import Stencil.Proofs.Number.Numeral
import Stencil.Proofs.Template.Cuts
import Stencil.Template.Helper

/-!
# Even integers

Whether an integer is even is read off the binary64 number nearest to it.  Beyond
`2 ^ 53` every such number is even, so there every integer passes for even; and one that
lies beyond all finite numbers cannot be asked about, while its numeral, which denotes
infinity, is not even.  Up to `2 ^ 53` the answer is right.
-/

namespace Stencil

open Binary64 (limit nearest nearestInt)

namespace Binary64

theorem two_dvd_lastPlace {magnitude : Nat} (large : 2 ^ 53 ≤ magnitude) :
    2 ∣ lastPlace magnitude := by
  have digits : 53 ≤ magnitude.log2 := (Nat.le_log2 (by omega)).mpr large
  exact dvd_pow_self 2 (show magnitude.log2 - 52 ≠ 0 by omega)

theorem two_dvd_nearest {magnitude : Nat} (large : 2 ^ 53 ≤ magnitude) : 2 ∣ nearest magnitude :=
  Dvd.dvd.mul_left (two_dvd_lastPlace large) _

theorem nearestInt_even_iff (number : Int) :
    nearestInt number % 2 = 0 ↔ number % 2 = 0 ∨ 2 ^ 53 < number.natAbs := by
  have size := natAbs_nearestInt number
  rcases Nat.lt_or_ge number.natAbs (2 ^ 53) with small | large
  · rw [nearest_of_lt small] at size
    omega
  · have even := two_dvd_nearest large
    omega

theorem toInt?_of_equalsInt {value : Binary64} {number : Int}
    (has : value.equalsInt number = true) : value.toInt? = some number := by
  cases value with
  | infinite negative => exact absurd has (by simp [equalsInt])
  | finite negative mantissa exponent =>
      have positive := quotient_denominator_pos negative mantissa exponent
      simp only [equalsInt, decide_eq_true_eq] at has
      simp only [toInt?, has]
      generalize (quotient negative mantissa exponent).2 = denominator at positive
      rw [if_pos (Int.mul_emod_left number denominator),
        Int.mul_ediv_cancel number (by omega)]

end Binary64

namespace Helper

theorem isEvenNumber_of_equalsInt {value : Binary64} {number : Int}
    (has : value.equalsInt number = true) :
    isEvenNumber value = decide (number % 2 = 0) := by
  rw [isEvenNumber, Binary64.toInt?_of_equalsInt has]

theorem isEven_int (number : Int) :
    isEven [.int number] = if limit ≤ number.natAbs then .error .integerTooLarge
      else .ok (.bool (decide (nearestInt number % 2 = 0))) := by
  rw [isEven, number?]
  · rcases Value.toBinary64_int_cases number with ⟨below, value, found, has⟩ | ⟨beyond, fails⟩
    · rw [found, if_neg (by omega), ← isEvenNumber_of_equalsInt has]
      rfl
    · rw [fails, if_pos beyond]
      rfl
  · exact fun _ same => by cases same

theorem isEven_numeral (number : Int) :
    isEven [.text (Text.ofInt number)] =
      .ok (.bool (decide (number.natAbs < limit ∧ nearestInt number % 2 = 0))) := by
  rw [isEven, number?, Text.toReading?_ofInt]
  rcases Binary64.ofQuotient_whole (number < 0) number.natAbs with ⟨below, has⟩ | ⟨beyond, infinite⟩
  · have whole : (Binary64.ofQuotient (number < 0) number.natAbs 1).equalsInt (nearestInt number) =
        true := has
    simp only [below, true_and, ← isEvenNumber_of_equalsInt whole]
    rfl
  · have notBelow : ¬ number.natAbs < limit := by omega
    simp only [infinite, notBelow, false_and, decide_false]
    rfl

theorem closed_ofInt (number : Int) : Arguments.Closed ',' (Text.ofInt number) := by
  have plain : ∀ char ∈ '-' :: Text.decimalDigits, Arguments.isQuote char = false ∧ char ≠ ',' :=
    Text.forall_of_all (by decide)
  exact Arguments.closed_plain fun char member => plain char (Text.mem_of_mem_ofInt member)

theorem arguments_ofInt {number : Int} {context : Entries}
    (free : Entries.resolve (Text.ofInt number) context = .undefined) :
    Call.arguments (Text.ofInt number) context = [.text (Text.ofInt number)] := by
  have noQuote : ∀ char ∈ '-' :: Text.decimalDigits, Arguments.isQuote char = false :=
    Text.forall_of_all (by decide)
  have unpaired : Arguments.isQuoted (Text.ofInt number) = false :=
    Arguments.isQuoted_eq_false fun char first =>
      noQuote char (Text.mem_of_mem_ofInt (List.mem_of_mem_head? first))
  have trimmed := Text.trim_ofInt number
  have cut := Arguments.split_eq_singleton (closed_ofInt number)
    (by rw [trimmed]; exact Text.ofInt_ne_nil number)
  rw [trimmed] at cut
  rw [Call.arguments, cut, List.map_singleton, Call.argument, unpaired, free]
  rfl

/-- What the helper says of an integer and of its numeral, which a call passes on as a
text if no name is written like it.  An integer beyond all finite numbers is an error, and
its numeral is not even; of the others the even ones are even, and so is every one beyond
`2 ^ 53`.  So the integers up to `2 ^ 53` are judged right, and beyond that just the even
ones that are not too large, and the odd numerals that are. -/
theorem isEven_rounded (number : Int) :
    isEven [.int number] =
      (if limit ≤ number.natAbs then .error .integerTooLarge
        else .ok (.bool (decide (number % 2 = 0 ∨ 2 ^ 53 < number.natAbs)))) ∧
    isEven [.text (Text.ofInt number)] =
      .ok (.bool (decide (number.natAbs < limit ∧
        (number % 2 = 0 ∨ 2 ^ 53 < number.natAbs)))) ∧
    (isEven [.int number] = .ok (.bool (decide (number % 2 = 0))) ↔
      number.natAbs ≤ 2 ^ 53 ∨ (number % 2 = 0 ∧ number.natAbs < limit)) ∧
    (isEven [.text (Text.ofInt number)] = .ok (.bool (decide (number % 2 = 0))) ↔
      number.natAbs ≤ 2 ^ 53 ∨ (number % 2 = 0 ↔ number.natAbs < limit)) ∧
    ∀ context, Entries.resolve (Text.ofInt number) context = .undefined →
      Call.arguments (Text.ofInt number) context = [.text (Text.ofInt number)] := by
  have large := Binary64.two_pow_le_limit
  rw [isEven_int, isEven_numeral]
  simp only [Binary64.nearestInt_even_iff]
  refine ⟨trivial, trivial, ?_, ?_, fun context => arguments_ofInt⟩
  · split
    · next beyond =>
        constructor
        · intro impossible
          cases impossible
        · omega
    · simp only [Except.ok.injEq, Value.bool.injEq, decide_eq_decide]
      omega
  · simp only [Except.ok.injEq, Value.bool.injEq, decide_eq_decide]
    omega

/-- The odd integer behind `2 ^ 53` passes for even, by itself and written in a call. -/
theorem isEven_rounded_odd :
    (9007199254740993 : Int).natAbs < limit ∧
    isEven [.int 9007199254740993] = .ok (.bool true) ∧
    Entries.resolve (Text.ofInt 9007199254740993) [] = .undefined ∧
    isEven (Call.arguments (Text.ofInt 9007199254740993) []) = .ok (.bool true) := by
  have large := Binary64.two_pow_le_limit
  have below : (9007199254740993 : Int).natAbs < limit := by omega
  have free : Entries.resolve (Text.ofInt 9007199254740993) [] = .undefined := by decide
  obtain ⟨integer, numeral, _, _, written⟩ := isEven_rounded 9007199254740993
  refine ⟨below, ?_, free, ?_⟩
  · rw [integer, if_neg (by omega)]
    rfl
  · rw [written [] free, numeral]
    simp only [below, true_and]
    rfl

end Helper

end Stencil
