import Stencil.Data.Json.Read
import Stencil.Proofs.Data.Shown
import Stencil.Proofs.Number.Numeral

/-!
# Scalars in JSON

A string, an integer or a word in JSON is read as what was written, in front of whatever
can follow a value.  Each character of a string is read by itself, so an escape stands for
the character that it was written for; an integer has no digits more than its own, and
none of its texts begins with a zero that is not all of it.  What is written has no
control characters.
-/

namespace Stencil

namespace Text

/-- Whether a text is free of control characters. -/
def isShown (text : Text) : Bool :=
  text.all fun char => 0x20 ≤ char.toNat

theorem isShown_append (first later : Text) :
    isShown (first ++ later) = (isShown first && isShown later) :=
  List.all_append

theorem isShown_cons (char : Char) (text : Text) :
    isShown (char :: text) = (decide (0x20 ≤ char.toNat) && isShown text) :=
  List.all_cons

theorem isShown_ofInt (number : Int) : isShown (ofInt number) = true := by
  have all : ∀ char ∈ '-' :: decimalDigits, decide (0x20 ≤ char.toNat) = true :=
    forall_of_all (by decide)
  exact List.all_eq_true.mpr fun char member => all char (mem_of_mem_ofInt member)

end Text

namespace Json

/-- What can follow a value: the next part of a collection, its end, or nothing. -/
def Ends (rest : Text) : Prop :=
  ∀ char ∈ rest.head?, char ∈ [',', ']', '\x7d']

theorem ends_cons {char : Char} (mark : char ∈ [',', ']', '\x7d']) (rest : Text) :
    Ends (char :: rest) := by
  rintro other first
  cases first
  exact mark

theorem writeChar_cases (char : Char) :
    (∃ letter, writeChar false char = ['\\', letter] ∧ escapedLetter? letter = some char ∧
        0x20 ≤ letter.toNat) ∨
      (writeChar false char = escapedCode char.toNat ∧ char.toNat < 0x20) ∨
      (writeChar false char = [char] ∧ char ≠ '"' ∧ char ≠ '\\' ∧ 0x20 ≤ char.toNat) := by
  by_cases special : char ∈ ['"', '\\', '\n', '\r', '\t', '\x0c', '\x08']
  · simp only [List.mem_cons, List.not_mem_nil, or_false] at special
    rcases special with rfl | rfl | rfl | rfl | rfl | rfl | rfl <;>
      exact .inl ⟨_, rfl, rfl, by decide⟩
  · simp only [List.mem_cons, List.not_mem_nil, or_false, not_or] at special
    obtain ⟨noQuote, noEscape, noFeed, noReturn, noTab, noForm, noBack⟩ := special
    rw [writeChar, if_neg noQuote, if_neg noEscape, if_neg noFeed, if_neg noReturn, if_neg noTab,
      if_neg noForm, if_neg noBack, Bool.false_and, Bool.or_false]
    split
    · next control => exact .inr (.inl ⟨rfl, of_decide_eq_true control⟩)
    · next shown => exact .inr (.inr ⟨rfl, noQuote, noEscape, by simpa using shown⟩)

section Strings

variable (fuel : Nat) (rest : Text)

theorem readText?_letter {letter char : Char} (escape : escapedLetter? letter = some char) :
    readText? (fuel + 1) ('\\' :: letter :: rest) =
      (readText? fuel rest).map fun (later, rest) => (char :: later, rest) := by
  have noCode : letter ≠ 'u' := by
    rintro rfl
    cases escape
  have opened : ¬ '\\' = '"' := by decide
  rw [readText?, if_neg opened, if_pos rfl, escape]
  · cases readText? fuel rest <;> rfl
  · exact noCode

theorem code?_append {digits : Text} {values : List Nat} (four : digits.length = 4)
    (each : digits.mapM Text.hexValue? = some values) :
    code? (digits ++ rest) = some (Text.ofDigits 16 values, rest) := by
  match digits with
  | [first, second, third, fourth] =>
      change code? (first :: second :: third :: fourth :: rest) = _
      rw [code?, each]
      rfl

/-- A control character is escaped by its code. -/
theorem readText?_code {code : Nat} (low : code < 0x20) :
    readText? (fuel + 1) (escapedCode code ++ rest) =
      (readText? fuel rest).map fun (later, rest) => (Char.ofNat code :: later, rest) := by
  have digits : ∀ code < 0x20, escapedCode code = '\\' :: 'u' :: hexadecimal code ∧
      (hexadecimal code).length = 4 ∧
      (hexadecimal code).mapM Text.hexValue? = some [0, 0, code / 16, code % 16] ∧
      Text.ofDigits 16 [0, 0, code / 16, code % 16] = code ∧
      isHighHalf code = false ∧ charOf code = Char.ofNat code := by
    decide
  obtain ⟨written, four, each, value, noHalf, char⟩ := digits code low
  have found := code?_append rest four each
  have escaped : escapedChar? (hexadecimal code ++ rest) = some (Char.ofNat code, rest) := by
    rw [escapedChar?, found, value]
    simp only [Option.bind_eq_bind, Option.bind_some, noHalf, char]
    split <;> rfl
  have opened : ¬ '\\' = '"' := by decide
  rw [written]
  change readText? (fuel + 1) ('\\' :: 'u' :: (hexadecimal code ++ rest)) = _
  rw [readText?, if_neg opened, if_pos rfl]
  simp only [escaped, Option.bind_eq_bind, Option.bind_some]
  cases readText? fuel rest <;> rfl

theorem readText?_plain {char : Char} (noQuote : char ≠ '"') (noEscape : char ≠ '\\')
    (shown : 0x20 ≤ char.toNat) :
    readText? (fuel + 1) (char :: rest) =
      (readText? fuel rest).map fun (later, rest) => (char :: later, rest) := by
  rw [readText?.eq_def]
  simp only [noQuote, noEscape, Nat.not_lt.mpr shown, if_false]
  cases readText? fuel rest <;> rfl

/-- Every character is read as it was written, escaped or not. -/
theorem readText?_writeChar (char : Char) :
    readText? (fuel + 1) (writeChar false char ++ rest) =
      (readText? fuel rest).map fun (later, rest) => (char :: later, rest) := by
  rcases writeChar_cases char with
    ⟨letter, written, escape, _⟩ | ⟨written, control⟩ | ⟨written, noQuote, noEscape, shown⟩
  · rw [written]
    exact readText?_letter fuel rest escape
  · have read := readText?_code fuel rest control
    rwa [written, Char.ofNat_toNat] at *
  · rw [written]
    exact readText?_plain fuel rest noQuote noEscape shown

theorem readText?_content {text : Text} (enough : text.length < fuel) :
    readText? fuel (text.flatMap (writeChar false) ++ '"' :: rest) = some (text, rest) := by
  induction text generalizing fuel with
  | nil =>
      cases fuel with
      | zero => exact absurd enough (Nat.not_lt_zero _)
      | succ fuel => rfl
  | cons char text ih =>
      cases fuel with
      | zero => exact absurd enough (Nat.not_lt_zero _)
      | succ fuel =>
          have later := ih fuel (by simpa using enough)
          rw [List.flatMap_cons, List.append_assoc, readText?_writeChar, later]
          rfl

theorem length_le_length_content (text : Text) :
    text.length ≤ (text.flatMap (writeChar false)).length := by
  induction text with
  | nil => exact Nat.le_refl 0
  | cons char text ih =>
      have some : 0 < (writeChar false char).length := by
        rcases writeChar_cases char with ⟨_, written, _⟩ | ⟨written, _⟩ | ⟨written, _⟩
        · rw [written]
          exact Nat.zero_lt_succ _
        · rw [written, escapedCode]
          split
          · exact Nat.zero_lt_succ _
          · exact Nat.zero_lt_succ _
        · rw [written]
          exact Nat.zero_lt_succ _
      rw [List.flatMap_cons, List.length_append, List.length_cons]
      omega

/-- A string is read up to its closing quote, whatever follows. -/
theorem readText?_string (text : Text) :
    readText? ((text.flatMap (writeChar false) ++ '"' :: rest).length + 1)
      (text.flatMap (writeChar false) ++ '"' :: rest) = some (text, rest) := by
  apply readText?_content
  have long := length_le_length_content text
  rw [List.length_append]
  omega

end Strings

theorem isShown_writeText (text : Text) : Text.isShown (writeText false text) = true := by
  have control : ∀ code < 0x20, Text.isShown (escapedCode code) = true := by decide
  have each : ∀ char, Text.isShown (writeChar false char) = true := by
    intro char
    rcases writeChar_cases char with
      ⟨letter, written, _, shown⟩ | ⟨written, low⟩ | ⟨written, _, _, shown⟩
    · rw [written]
      simp [Text.isShown, shown]
    · rw [written]
      exact control _ low
    · rw [written]
      simp [Text.isShown, shown]
  have content : Text.isShown (text.flatMap (writeChar false)) = true := by
    apply List.all_eq_true.mpr
    intro char member
    obtain ⟨one, _, inside⟩ := List.mem_flatMap.mp member
    exact List.all_eq_true.mp (each one) char inside
  rw [writeText, List.cons_append, Text.isShown_cons, Text.isShown_append, content]
  decide

section Numbers

variable {rest : Text}

theorem Ends.stops (ends : Ends rest) : ∀ char ∈ rest.head?, Text.isDigit char = false ∧
    char ≠ '.' ∧ char ≠ 'e' ∧ char ≠ 'E' := by
  have marks : ∀ char ∈ [',', ']', '\x7d'], Text.isDigit char = false ∧
      char ≠ '.' ∧ char ≠ 'e' ∧ char ≠ 'E' := Text.forall_of_all (by decide)
  intro char first
  exact marks char (ends char first)

theorem readFraction_of_ends (ends : Ends rest) : readFraction rest = ([], rest) := by
  cases rest with
  | nil => rfl
  | cons char rest =>
      obtain ⟨_, noPoint, _, _⟩ := ends.stops char rfl
      rw [readFraction]
      intro later same
      exact noPoint (List.cons.inj same).1

theorem readExponent_of_ends (ends : Ends rest) : readExponent rest = (none, rest) := by
  cases rest with
  | nil => rfl
  | cons char rest =>
      obtain ⟨_, _, noSmall, noLarge⟩ := ends.stops char rfl
      simp [readExponent, noSmall, noLarge]

theorem digits_ofNat (number : Nat) (ends : Ends rest) :
    digits (Text.ofNat number ++ rest) =
      ((Text.ofNat number).map fun char => char.toNat - '0'.toNat, rest) := by
  have all : (Text.ofNat number).all Text.isDigit = true :=
    List.all_eq_true.mpr fun char => Text.isDigit_of_mem_ofNat
  have stops : ∀ char ∈ rest.head?, Text.isDigit char = false := fun char first =>
    (ends.stops char first).1
  rw [digits, Text.takeWhile_append_of_stop all stops, Text.dropWhile_append_of_stop all stops]

theorem readNumber_ofNat (negative : Bool) {number : Nat} (short : number < Nat.pow 10 maxDigits)
    (ends : Ends rest) :
    readNumber negative (Text.ofNat number ++ rest) =
      .ok (.int (if negative then -(number : Int) else number), rest) := by
  have written : Text.ofNat number ≠ [] := Nat.toDigits_ne_nil
  have length : ((Text.ofNat number).map fun char => char.toNat - '0'.toNat).length ≤
      maxDigits := by
    rw [List.length_map]
    exact Text.length_ofNat_le (by decide) short
  have nonempty : ((Text.ofNat number).map fun char => char.toNat - '0'.toNat) ≠ [] :=
    fun empty => written (List.map_eq_nil_iff.mp empty)
  rw [readNumber.eq_def]
  split
  next whole later parts =>
    have same : ((Text.ofNat number).map fun char => char.toNat - '0'.toNat, rest) =
        (whole, later) := by
      rw [← parts]
      rcases Nat.eq_zero_or_pos number with rfl | positive
      · rfl
      · split
        · next first =>
            have head := congrArg List.head? first
            rw [List.head?_append_of_ne_nil _ written] at head
            exact absurd head (Text.head?_ofNat positive)
        · exact (digits_ofNat number ends).symm
    obtain ⟨rfl, rfl⟩ := Prod.mk.inj same
    rw [if_neg nonempty, readFraction_of_ends ends]
    simp only [readExponent_of_ends ends, and_self, if_true, if_pos length, Text.ofDigits_ofNat]

end Numbers

end Json

end Stencil
