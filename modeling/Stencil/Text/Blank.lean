import Stencil.Text.Basic

/-!
# Blank characters

The characters that count as white space everywhere in templates, and the
trimming of texts.  Trimming removes blank characters from the ends only, and
a trimmed text stays as it is.
-/

namespace Stencil.Text

/-- White space: the space separators, the line and paragraph separators, and
the control characters that separate lines, fields and records. -/
def isBlank (char : Char) : Bool :=
  let code := char.toNat
  (9 ≤ code && code ≤ 13) || (28 ≤ code && code ≤ 32) || code = 0x85 || code = 0xA0
    || code = 0x1680 || (0x2000 ≤ code && code ≤ 0x200A) || code = 0x2028
    || code = 0x2029 || code = 0x202F || code = 0x205F || code = 0x3000

def trimLeft (text : Text) : Text :=
  text.dropWhile isBlank

def trimRight (text : Text) : Text :=
  (text.reverse.dropWhile isBlank).reverse

/-- The text without blank characters at either end. -/
def trim (text : Text) : Text :=
  trimRight (trimLeft text)

theorem dropWhile_eq_self {accepts : Char → Bool} {text : Text}
    (stops : ∀ char ∈ text.head?, accepts char = false) : text.dropWhile accepts = text := by
  cases text with
  | nil => rfl
  | cons char text => simp [stops char (by simp)]

theorem head?_trimLeft {text : Text} : ∀ char ∈ (trimLeft text).head?, isBlank char = false := by
  induction text with
  | nil => simp [trimLeft]
  | cons char text ih =>
      by_cases blank : isBlank char = true
      · simpa [trimLeft, blank] using ih
      · simp [trimLeft, blank]

theorem trimLeft_trimLeft (text : Text) : trimLeft (trimLeft text) = trimLeft text :=
  dropWhile_eq_self head?_trimLeft

theorem trimRight_trimRight (text : Text) : trimRight (trimRight text) = trimRight text := by
  simpa [trimRight, trimLeft] using trimLeft_trimLeft text.reverse

/-- A blank character that may stand around a number; the separators of
records and fields may not. -/
def isMargin (char : Char) : Bool :=
  isBlank char && !(0x1C ≤ char.toNat && char.toNat ≤ 0x1F)

/-- The text without the margin around a number. -/
def withoutMargin (text : Text) : Text :=
  ((text.dropWhile isMargin).reverse.dropWhile isMargin).reverse

end Stencil.Text
