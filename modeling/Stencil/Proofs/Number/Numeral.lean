import Mathlib.Data.List.Basic
import Stencil.Data.Equality
import Stencil.Proofs.Text.Words

/-!
# Reading numerals

The numeral of an integer is read as the binary64 number nearest to the integer,
as large as it may be; it consists of digits, and of a minus sign before them if
the integer is negative.
-/

namespace Stencil.Text

def decimalDigits : List Char :=
  ['0', '1', '2', '3', '4', '5', '6', '7', '8', '9']

theorem mem_decimalDigits {char : Char} (digit : char.isDigit = true) : char ∈ decimalDigits := by
  have all : ∀ code : Nat, code < 10 → Char.ofNat (48 + code) ∈ decimalDigits := by decide
  simp only [Char.isDigit, Bool.and_eq_true, decide_eq_true_eq, UInt32.le_iff_toNat_le] at digit
  obtain ⟨low, high⟩ := digit
  have size : char.val.toNat = char.toNat := rfl
  rw [size] at low high
  change 48 ≤ char.toNat at low
  change char.toNat ≤ 57 at high
  have found := all (char.toNat - 48) (by omega)
  rwa [show 48 + (char.toNat - 48) = char.toNat by omega, Char.ofNat_toNat] at found

theorem mem_decimalDigits_of_mem_ofNat {number : Nat} {char : Char}
    (member : char ∈ ofNat number) : char ∈ decimalDigits :=
  mem_decimalDigits (Nat.isDigit_of_mem_toDigits (by decide) (by decide) member)

/-- The numeral of a number has no leading zero. -/
theorem head?_ofNat {number : Nat} (positive : 0 < number) : (ofNat number).head? ≠ some '0' := by
  induction number using Nat.strongRecOn with
  | ind number ih =>
      have digit : ∀ digit < 10, 0 < digit → digit.digitChar ≠ '0' := by decide
      by_cases single : number < 10
      · rw [ofNat, Nat.toDigits_of_lt_base single]
        simpa using digit number single positive
      · have front := ih (number / 10) (by omega) (by omega)
        rw [ofNat, Nat.toDigits_of_base_le (by decide) (by omega),
          List.head?_append_of_ne_nil _ Nat.toDigits_ne_nil]
        exact front

theorem length_ofNat_le {number places : Nat} (positive : 0 < places)
    (short : number < Nat.pow 10 places) : (ofNat number).length ≤ places :=
  (Nat.length_toDigits_le_iff (by decide) positive).mpr short

theorem isDigit_of_mem_ofNat {number : Nat} {char : Char} (member : char ∈ ofNat number) :
    isDigit char = true := by
  have all : ∀ char ∈ decimalDigits, isDigit char = true := forall_of_all (by decide)
  exact all char (mem_decimalDigits_of_mem_ofNat member)

theorem exists_ofNat_eq_cons (number : Nat) :
    ∃ digit ∈ decimalDigits, ∃ later, ofNat number = digit :: later := by
  have nonempty : ofNat number ≠ [] := Nat.toDigits_ne_nil
  obtain ⟨digit, later, written⟩ := List.exists_cons_of_ne_nil nonempty
  have member : digit ∈ ofNat number := by
    rw [written]
    exact List.mem_cons_self
  exact ⟨digit, mem_decimalDigits_of_mem_ofNat member, later, written⟩

theorem mem_of_mem_ofInt {number : Int} {char : Char} (member : char ∈ ofInt number) :
    char ∈ '-' :: decimalDigits := by
  rw [ofInt] at member
  split at member
  · rcases List.mem_cons.mp member with rfl | behind
    · exact List.mem_cons_self
    · exact List.mem_cons_of_mem _ (mem_decimalDigits_of_mem_ofNat behind)
  · exact List.mem_cons_of_mem _ (mem_decimalDigits_of_mem_ofNat member)

theorem isBlank_of_mem_ofInt {number : Int} {char : Char} (member : char ∈ ofInt number) :
    isBlank char = false := by
  have none : ∀ char ∈ '-' :: decimalDigits, isBlank char = false :=
    forall_of_all (by decide)
  exact none char (mem_of_mem_ofInt member)

theorem ofInt_ne_nil (number : Int) : ofInt number ≠ [] := by
  rw [ofInt]
  split
  · exact List.cons_ne_nil _ _
  · exact Nat.toDigits_ne_nil

theorem groupedDigits_of_digits {text : Text} (digits : ∀ char ∈ text, char ∈ decimalDigits)
    (before : Bool) :
    groupedDigits before text = (text.map fun char => char.toNat - '0'.toNat, []) := by
  induction text generalizing before with
  | nil => rfl
  | cons char text ih =>
      have value : ∀ char ∈ decimalDigits, digitValue? char = some (char.toNat - '0'.toNat) :=
        forall_of_all (by decide)
      have noLine : ∀ char ∈ decimalDigits, char ≠ '_' := forall_of_all (by decide)
      have member := digits char List.mem_cons_self
      have later := ih (fun other inside => digits other (List.mem_cons_of_mem _ inside)) true
      rw [groupedDigits]
      · rw [value char member]
        simp [later]
      · intro next rest underscore _
        exact noLine char member underscore

/-- The digits of a number have its value. -/
theorem ofDigits_ofNat (number : Nat) :
    ofDigits 10 ((ofNat number).map fun char => char.toNat - '0'.toNat) = number := by
  rw [ofDigits, List.foldl_map]
  exact Nat.ofDigitChars_toDigits (by decide) (by decide)

theorem ofDecimal_whole (negative : Bool) (number places : Nat) :
    Binary64.ofDecimal negative number places 0 = Binary64.ofQuotient negative number 1 := by
  by_cases zero : number = 0
  · rw [Binary64.ofDecimal, if_pos zero, Binary64.ofQuotient, if_pos zero]
  · rw [Binary64.ofDecimal, if_neg zero, if_neg (by omega), if_neg (by decide), if_neg (by decide)]
    simp

theorem finite?_ofNat (negative : Bool) (number : Nat) :
    finite? negative (ofNat number) = some (Binary64.ofQuotient negative number 1) := by
  have digits : ∀ char ∈ ofNat number, char ∈ decimalDigits := fun char member =>
    mem_decimalDigits_of_mem_ofNat member
  have nonempty : (ofNat number).map (fun char => char.toNat - '0'.toNat) ≠ [] :=
    fun empty => Nat.toDigits_ne_nil (List.map_eq_nil_iff.mp empty)
  simp only [finite?, groupedDigits_of_digits digits, fraction, exponent?, List.append_nil,
    if_neg nonempty, ofDigits_ofNat, List.length_nil, Int.natCast_zero, Int.sub_zero,
    ofDecimal_whole]

theorem withoutMargin_ofInt (number : Int) : withoutMargin (ofInt number) = ofInt number := by
  have solid : ∀ char ∈ ofInt number, isMargin char = false := by
    intro char member
    rw [isMargin, isBlank_of_mem_ofInt member, Bool.false_and]
  have front : (ofInt number).dropWhile isMargin = ofInt number :=
    dropWhile_eq_self fun char first => solid char (List.mem_of_mem_head? first)
  have back : (ofInt number).reverse.dropWhile isMargin = (ofInt number).reverse :=
    dropWhile_eq_self fun char last =>
      solid char (List.mem_reverse.mp (List.mem_of_mem_head? last))
  rw [withoutMargin, front, back, List.reverse_reverse]

theorem trim_ofInt (number : Int) : trim (ofInt number) = ofInt number :=
  trim_eq_self (fun _ first => isBlank_of_mem_ofInt (List.mem_of_mem_head? first))
    fun _ last => isBlank_of_mem_ofInt (List.mem_of_mem_getLast? last)

theorem signed_ofInt (number : Int) :
    signed (ofInt number) = (decide (number < 0), ofNat number.natAbs) := by
  rw [ofInt]
  split
  · next negative => simp [signed, negative]
  · next positive =>
      have digits : ∀ char ∈ ofNat number.natAbs, char ∈ decimalDigits := fun char member =>
        mem_decimalDigits_of_mem_ofNat member
      have noSign : ∀ char ∈ decimalDigits, char ≠ '-' ∧ char ≠ '+' := forall_of_all (by decide)
      cases text : ofNat number.natAbs with
      | nil => exact absurd text Nat.toDigits_ne_nil
      | cons char rest =>
          rw [text] at digits
          obtain ⟨noMinus, noPlus⟩ := noSign char (digits char List.mem_cons_self)
          simp [signed, positive, noMinus, noPlus]

/-- A numeral is no word for infinity or for "not a number". -/
theorem toReading?_ofInt (number : Int) :
    toReading? (ofInt number) =
      some (.number (Binary64.ofQuotient (number < 0) number.natAbs 1)) := by
  have noLetter : ∀ char ∈ decimalDigits, char.toLower ≠ 'i' ∧ char.toLower ≠ 'n' :=
    forall_of_all (by decide)
  simp only [toReading?, withoutMargin_ofInt, signed_ofInt, finite?_ofNat]
  cases text : ofNat number.natAbs with
  | nil => exact absurd text Nat.toDigits_ne_nil
  | cons char rest =>
      have member : char ∈ ofNat number.natAbs := by
        rw [text]
        exact List.mem_cons_self
      obtain ⟨noI, noN⟩ := noLetter char (mem_decimalDigits_of_mem_ofNat member)
      simp [lowerAscii, noI, noN]

end Stencil.Text

/-- A numeral becomes the binary64 number nearest to its integer, or infinity. -/
theorem Stencil.Value.toBinary64_numeral (number : Int) :
    (Value.text (Text.ofInt number)).toBinary64 =
      .ok (some (Binary64.ofQuotient (number < 0) number.natAbs 1)) := by
  rw [toBinary64, Text.trim_ofInt, if_neg (Text.ofInt_ne_nil number), Text.toReading?_ofInt]
