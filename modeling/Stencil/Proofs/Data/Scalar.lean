import Stencil.Data.Display
import Stencil.Proofs.Text.Inert

/-!
# The texts of scalars

Numbers, dates and quoted texts are written without braces.  A brace in
rendered output can come from a text of the data or from the JSON form of a
mapping, and from nothing else.
-/

namespace Stencil

namespace Text

theorem isInner_digitChar (number : Nat) : Tag.isInner number.digitChar = true := by
  match number with
  | 0 | 1 | 2 | 3 | 4 | 5 | 6 | 7 | 8 | 9 | 10 | 11 | 12 | 13 | 14 | 15 => decide
  | number + 16 =>
      have star : (number + 16).digitChar = '*' := by simp [Nat.digitChar]
      rw [star]
      decide

theorem isBraceFree_toDigitsCore (base fuel number : Nat) {later : Text}
    (free : isBraceFree later = true) :
    isBraceFree (Nat.toDigitsCore base fuel number later) = true := by
  induction fuel generalizing number later with
  | zero => exact free
  | succ fuel ih =>
      have next : isBraceFree ((number % base).digitChar :: later) = true := by
        rw [isBraceFree_cons, isInner_digitChar, free]
        rfl
      rw [Nat.toDigitsCore]
      split
      · exact next
      · exact ih _ next

@[simp] theorem isBraceFree_toDigits (base number : Nat) :
    isBraceFree (Nat.toDigits base number) = true :=
  isBraceFree_toDigitsCore base _ number rfl

@[simp] theorem isBraceFree_ofNat (number : Nat) : isBraceFree (ofNat number) = true :=
  isBraceFree_toDigits 10 number

@[simp] theorem isBraceFree_nil : isBraceFree [] = true := rfl

@[simp] theorem isBraceFree_replicate (count : Nat) {char : Char}
    (inner : Tag.isInner char = true) : isBraceFree (List.replicate count char) = true := by
  apply isBraceFree_of_forall
  intro member among
  rw [List.eq_of_mem_replicate among]
  exact inner

theorem isInner_sign (negative : Prop) [Decidable negative] (first second : Char)
    (left : Tag.isInner first = true) (right : Tag.isInner second = true) :
    Tag.isInner (if negative then first else second) = true := by
  split
  · exact left
  · exact right

theorem isBraceFree_ite (condition : Prop) [Decidable condition] {first second : Text}
    (left : isBraceFree first = true) (right : isBraceFree second = true) :
    isBraceFree (if condition then first else second) = true := by
  split
  · exact left
  · exact right

theorem isBraceFree_take {text : Text} (free : isBraceFree text = true) (count : Nat) :
    isBraceFree (text.take count) = true := by
  apply isBraceFree_of_forall
  intro char member
  exact isInner_of_mem free char (List.mem_of_mem_take member)

theorem isBraceFree_drop {text : Text} (free : isBraceFree text = true) (count : Nat) :
    isBraceFree (text.drop count) = true := by
  apply isBraceFree_of_forall
  intro char member
  exact isInner_of_mem free char (List.mem_of_mem_drop member)

theorem isBraceFree_ofInt (number : Int) : isBraceFree (ofInt number) = true := by
  unfold ofInt
  split
  · rw [isBraceFree_cons, isBraceFree_ofNat]
    rfl
  · exact isBraceFree_ofNat _

theorem isBraceFree_padded (width number : Nat) : isBraceFree (padded width number) = true := by
  rw [padded, isBraceFree_append, isBraceFree_replicate _ (by decide), isBraceFree_ofNat]
  rfl

end Text

open Text

theorem Binary64.isBraceFree_positional {digits : Text} (free : isBraceFree digits = true)
    (whole : Int) : isBraceFree (positional digits whole) = true := by
  have zeros : ∀ count, isBraceFree (List.replicate count '0') = true := by
    intro count
    exact isBraceFree_replicate count (by decide)
  have zero : Tag.isInner '0' = true := by decide
  have point : Tag.isInner '.' = true := by decide
  unfold positional
  split
  · simp [zeros, free, zero, point]
  · dsimp only
    split
    · simp [zeros, free, zero, point]
    · simp [isBraceFree_take free, isBraceFree_drop free, point]

theorem Binary64.isBraceFree_scientific {digits : Text} (free : isBraceFree digits = true)
    (power : Int) : isBraceFree (scientific digits power) = true := by
  have fraction : isBraceFree (if digits.length ≤ 1 then [] else '.' :: digits.drop 1) = true := by
    apply isBraceFree_ite _ rfl
    rw [isBraceFree_cons, isBraceFree_drop free]
    rfl
  have sign := isInner_sign (power < 0) '-' '+' (by decide) (by decide)
  have mark : Tag.isInner 'e' = true := by decide
  unfold scientific
  simp only [isBraceFree_append, isBraceFree_cons, isBraceFree_nil, isBraceFree_take free, fraction,
    sign, mark, isBraceFree_padded, Bool.and_self]

theorem Binary64.isBraceFree_text (number : Binary64) : isBraceFree number.text = true := by
  cases number with
  | infinite negative =>
      cases negative
      · decide
      · decide
  | finite negative mantissa exponent =>
      have magnitude : ∀ shown : Text, isBraceFree shown = true →
          isBraceFree (if negative then '-' :: shown else shown) = true := by
        intro shown free
        apply isBraceFree_ite _ _ free
        rw [isBraceFree_cons, free]
        rfl
      apply magnitude
      apply isBraceFree_ite
      · decide
      · dsimp only
        apply isBraceFree_ite
        · exact isBraceFree_positional (isBraceFree_ofNat _) _
        · exact isBraceFree_scientific (isBraceFree_ofNat _) _

theorem Date.isBraceFree_text (date : Date) : isBraceFree date.text = true := by
  have hyphen : Tag.isInner '-' = true := by decide
  simp [Date.text, isBraceFree_padded, hyphen]

theorem Clock.isBraceFree_text (clock : Clock) : isBraceFree clock.text = true := by
  have colon : Tag.isInner ':' = true := by decide
  have fraction : isBraceFree
      (if clock.microsecond = 0 then [] else '.' :: Text.padded 6 clock.microsecond) = true := by
    apply isBraceFree_ite _ rfl
    rw [isBraceFree_cons, isBraceFree_padded]
    rfl
  simp only [Clock.text, isBraceFree_append, isBraceFree_cons, isBraceFree_padded, colon, fraction,
    Bool.and_self]

theorem Timestamp.isBraceFree_offsetText (offset : Int) :
    isBraceFree (offsetText offset) = true := by
  have sign := isInner_sign (offset < 0) '-' '+' (by decide) (by decide)
  have colon : Tag.isInner ':' = true := by decide
  have part : ∀ (condition : Prop) [Decidable condition] (mark : Char) (width number : Nat),
      Tag.isInner mark = true →
        isBraceFree (if condition then [] else mark :: Text.padded width number) = true := by
    intro condition _ mark width number inner
    apply isBraceFree_ite _ rfl
    rw [isBraceFree_cons, inner, isBraceFree_padded]
    rfl
  simp only [offsetText, isBraceFree_append, isBraceFree_cons, isBraceFree_padded, sign, colon,
    part _ ':' _ _ (by decide), part _ '.' _ _ (by decide), Bool.and_self]

theorem Timestamp.isBraceFree_text (stamp : Timestamp) :
    isBraceFree (stamp.text ' ') = true := by
  have blank : Tag.isInner ' ' = true := by decide
  have zone : isBraceFree ((stamp.offset.map offsetText).getD []) = true := by
    cases stamp.offset with
    | none => rfl
    | some offset => exact isBraceFree_offsetText offset
  simp only [Timestamp.text, Moment.text, isBraceFree_append, isBraceFree_cons,
    Date.isBraceFree_text, Clock.isBraceFree_text, blank, zone, Bool.and_self]

namespace Json

theorem isBraceFree_writeFloat (number : Binary64) : isBraceFree (writeFloat number) = true := by
  cases number with
  | infinite negative =>
      cases negative
      · decide
      · decide
  | finite negative mantissa exponent =>
      exact Binary64.isBraceFree_text (.finite negative mantissa exponent)

theorem isBraceFree_hexadecimal (code : Nat) : isBraceFree (hexadecimal code) = true := by
  rw [hexadecimal, isBraceFree_append, isBraceFree_replicate _ (by decide), isBraceFree_toDigits]
  rfl

theorem isBraceFree_escapedCode (code : Nat) : isBraceFree (escapedCode code) = true := by
  have slash : Tag.isInner '\\' = true := by decide
  have mark : Tag.isInner 'u' = true := by decide
  unfold escapedCode
  split
  · simp only [isBraceFree_cons, isBraceFree_hexadecimal, slash, mark, Bool.and_self]
  · simp only [isBraceFree_append, isBraceFree_cons, isBraceFree_hexadecimal, slash, mark,
      Bool.and_self]

theorem isBraceFree_writeChar (asciiOnly : Bool) {char : Char} (inner : Tag.isInner char = true) :
    isBraceFree (writeChar asciiOnly char) = true := by
  have itself : isBraceFree [char] = true := by
    rw [isBraceFree_cons, inner]
    rfl
  unfold writeChar
  repeat
    apply isBraceFree_ite
    · decide
  apply isBraceFree_ite
  · exact isBraceFree_escapedCode char.toNat
  · exact itself

theorem isBraceFree_writeText (asciiOnly : Bool) {text : Text} (free : isBraceFree text = true) :
    isBraceFree (writeText asciiOnly text) = true := by
  have quote : Tag.isInner '"' = true := by decide
  have content : isBraceFree (text.flatMap (writeChar asciiOnly)) = true :=
    isBraceFree_flatMap (fun _ inner => isBraceFree_writeChar asciiOnly inner) free
  simp only [writeText, isBraceFree_append, isBraceFree_cons, isBraceFree_nil, quote, content,
    Bool.and_self]

end Json

end Stencil
