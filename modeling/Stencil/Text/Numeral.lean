import Stencil.Text.Basic

/-!
# Decimal numerals

Writing integers in decimal, and reading digits of any script.  A number is
read as the value of its digits in order, so writing and reading agree on the
ten ASCII digits.
-/

namespace Stencil.Text

/-- The code points of the zeros of the scripts that have decimal digits; the
nine others follow each zero. -/
def zeros : List Nat :=
  [0x30, 0x660, 0x6F0, 0x7C0, 0x966, 0x9E6, 0xA66, 0xAE6, 0xB66, 0xBE6, 0xC66, 0xCE6, 0xD66,
   0xDE6, 0xE50, 0xED0, 0xF20, 0x1040, 0x1090, 0x17E0, 0x1810, 0x1946, 0x19D0, 0x1A80, 0x1A90,
   0x1B50, 0x1BB0, 0x1C40, 0x1C50, 0xA620, 0xA8D0, 0xA900, 0xA9D0, 0xA9F0, 0xAA50, 0xABF0, 0xFF10,
   0x104A0, 0x10D30, 0x11066, 0x110F0, 0x11136, 0x111D0, 0x112F0, 0x11450, 0x114D0, 0x11650,
   0x116C0, 0x11730, 0x118E0, 0x11950, 0x11C50, 0x11D50, 0x11DA0, 0x16A60, 0x16AC0, 0x16B50,
   0x1D7CE, 0x1D7D8, 0x1D7E2, 0x1D7EC, 0x1D7F6, 0x1E140, 0x1E2F0, 0x1E950, 0x1FBF0]

/-- The value of a decimal digit of any script. -/
def digitValue? (char : Char) : Option Nat :=
  (zeros.find? fun nought => nought ≤ char.toNat && char.toNat ≤ nought + 9).map
    fun nought => char.toNat - nought

def hexValue? (char : Char) : Option Nat :=
  if isDigit char then some (char.toNat - '0'.toNat)
  else if 'a' ≤ char ∧ char ≤ 'f' then some (char.toNat - 'a'.toNat + 10)
  else if 'A' ≤ char ∧ char ≤ 'F' then some (char.toNat - 'A'.toNat + 10)
  else none

/-- The value of a list of digit values, the most significant first. -/
def ofDigits (base : Nat) (digits : List Nat) : Nat :=
  digits.foldl (fun value digit => base * value + digit) 0

def ofNat (number : Nat) : Text :=
  Nat.toDigits 10 number

/-- An integer in decimal, with a minus sign if it is negative. -/
def ofInt (number : Int) : Text :=
  if number < 0 then '-' :: ofNat number.natAbs else ofNat number.natAbs

/-- A number in decimal with zeros before it to fill `width` places. -/
def padded (width number : Nat) : Text :=
  let digits := ofNat number
  List.replicate (width - digits.length) '0' ++ digits

/-- Digits of any script with single underscores allowed between two digits;
`before` tells whether a digit stands just before. -/
def groupedDigits (before : Bool) : Text → List Nat × Text
  | [] => ([], [])
  | '_' :: char :: text =>
      match before, digitValue? char with
      | true, some digit =>
          let (digits, rest) := groupedDigits true text
          (digit :: digits, rest)
      | _, _ => ([], '_' :: char :: text)
  | char :: text =>
      match digitValue? char with
      | some digit =>
          let (digits, rest) := groupedDigits true text
          (digit :: digits, rest)
      | none => ([], char :: text)

/-- An optional sign, true for minus, and what follows it. -/
def signed : Text → Bool × Text
  | '-' :: text => (true, text)
  | '+' :: text => (false, text)
  | text => (false, text)

end Stencil.Text
