import Mathlib.Data.List.Basic
import Mathlib.Data.List.TakeWhile
import Stencil.Proofs.Text.Inert
import Stencil.Text.Word

/-!
# Words and paths

The characters of a word are no white space and no character that means
something in a tag.  A path consists of word characters and dots.  Trimming
leaves such texts as they are, and trimming a text from the right stops in the
part behind which nothing blank is left.
-/

namespace Stencil.Text

theorem forall_of_all {property : Char → Prop} [DecidablePred property] {text : Text}
    (all : text.all (fun char => decide (property char)) = true) :
    ∀ char ∈ text, property char := by
  simpa using all

def blankCodes : List Nat :=
  [9, 10, 11, 12, 13, 28, 29, 30, 31, 32, 0x85, 0xA0, 0x1680, 0x2000, 0x2001, 0x2002, 0x2003,
    0x2004, 0x2005, 0x2006, 0x2007, 0x2008, 0x2009, 0x200A, 0x2028, 0x2029, 0x202F, 0x205F,
    0x3000]

theorem mem_blankCodes {char : Char} (blank : isBlank char = true) :
    char.toNat ∈ blankCodes := by
  simp only [isBlank, Bool.or_eq_true, Bool.and_eq_true, decide_eq_true_eq] at blank
  simp only [blankCodes, List.mem_cons]
  omega

/-- Whether a character may stand in a path. -/
def isPathChar (char : Char) : Bool :=
  isWord char || char = '.'

theorem isPathChar_of_isWord {char : Char} (word : isWord char = true) :
    isPathChar char = true := by
  simp [isPathChar, word]

theorem isBlank_of_isPathChar {char : Char} (path : isPathChar char = true) :
    isBlank char = false := by
  have none : ∀ code ∈ blankCodes, isPathChar (Char.ofNat code) = false := by decide +kernel
  cases blank : isBlank char with
  | false => rfl
  | true =>
      have noPath := none _ (mem_blankCodes blank)
      rw [Char.ofNat_toNat, path] at noPath
      exact noPath

theorem isWord_of_isNameChar {char : Char} (name : isNameChar char = true) :
    isWord char = true := by
  have small : ∀ last : UInt32, last.toNat < 128 → char.val ≤ last → char.toNat < 128 :=
    fun last ascii below => Nat.lt_of_le_of_lt (UInt32.le_iff_toNat_le.mp below) ascii
  have ascii : char.toNat < 128 := by
    change (((decide (65 ≤ char.val ∧ char.val ≤ 90) ||
      (decide (97 ≤ char.val) && decide (char.val ≤ 122))) ||
      (decide (48 ≤ char.val) && decide (char.val ≤ 57))) || decide (char = '_')) = true at name
    simp only [Bool.or_eq_true, Bool.and_eq_true, decide_eq_true_eq] at name
    rcases name with ((upper | lower) | digit) | rfl
    · exact small 90 (by decide) upper.2
    · exact small 122 (by decide) lower.2
    · exact small 57 (by decide) digit.2
    · decide
  rw [isWord, if_pos ascii, name]

theorem isPathChar_of_isNameChar {char : Char} (name : isNameChar char = true) :
    isPathChar char = true :=
  isPathChar_of_isWord (isWord_of_isNameChar name)

theorem isNameChar_of_isBlank {char : Char} (blank : isBlank char = true) :
    isNameChar char = false := by
  cases name : isNameChar char with
  | false => rfl
  | true =>
      rw [isBlank_of_isPathChar (isPathChar_of_isNameChar name)] at blank
      exact absurd blank (by decide)

theorem ne_of_isBlank {char other : Char} (blank : isBlank char = true)
    (solid : isBlank other = false) : char ≠ other := by
  rintro rfl
  rw [solid] at blank
  exact absurd blank (by decide)

theorem isInner_of_isBlank {char : Char} (blank : isBlank char = true) :
    Tag.isInner char = true :=
  isInner_iff.mpr ⟨ne_of_isBlank blank (by decide), ne_of_isBlank blank (by decide)⟩

/-- The characters that separate the parts of a tag. -/
def separators : List Char :=
  ['\x7b', '\x7d', '|', ':', '(', ')', '"', '\'', ',', '=', '!', '\n', ' ']

theorem not_mem_separators_of_isPathChar {char : Char} (path : isPathChar char = true) :
    char ∉ separators := by
  intro member
  have none : separators.all (!isPathChar ·) = true := by decide +kernel
  have noPath := List.all_eq_true.mp none char member
  rw [path] at noPath
  exact absurd noPath (by decide)

theorem isInner_of_isPathChar {char : Char} (path : isPathChar char = true) :
    Tag.isInner char = true := by
  have outside := not_mem_separators_of_isPathChar path
  apply isInner_iff.mpr
  constructor
  · rintro rfl
    exact outside (by decide)
  · rintro rfl
    exact outside (by decide)

theorem isBraceFree_of_isPathChar {text : Text} (path : text.all isPathChar = true) :
    isBraceFree text = true := by
  apply isBraceFree_of_forall
  intro char member
  exact isInner_of_isPathChar (List.all_eq_true.mp path char member)

theorem all_isPathChar_of_isWord {text : Text} (words : text.all isWord = true) :
    text.all isPathChar = true := by
  apply List.all_eq_true.mpr
  intro char member
  exact isPathChar_of_isWord (List.all_eq_true.mp words char member)

theorem head?_isBlank_of_isPathChar {text : Text} (path : text.all isPathChar = true) :
    ∀ char ∈ text.head?, isBlank char = false := by
  intro char first
  exact isBlank_of_isPathChar
    (List.all_eq_true.mp path char (List.mem_of_mem_head? first))

theorem getLast?_isBlank_of_isPathChar {text : Text} (path : text.all isPathChar = true) :
    ∀ char ∈ text.getLast?, isBlank char = false := by
  intro char last
  exact isBlank_of_isPathChar (List.all_eq_true.mp path char (List.mem_of_mem_getLast? last))

theorem takeWhile_append_of_stop {accepts : Char → Bool} {text rest : Text}
    (all : text.all accepts = true) (stops : ∀ char ∈ rest.head?, accepts char = false) :
    (text ++ rest).takeWhile accepts = text := by
  rw [List.takeWhile_append_of_pos (List.all_eq_true.mp all)]
  cases rest with
  | nil => simp
  | cons char rest => simp [stops char (by simp)]

theorem dropWhile_append_of_stop {accepts : Char → Bool} {text rest : Text}
    (all : text.all accepts = true) (stops : ∀ char ∈ rest.head?, accepts char = false) :
    (text ++ rest).dropWhile accepts = rest := by
  rw [List.dropWhile_append_of_pos (List.all_eq_true.mp all)]
  exact dropWhile_eq_self stops

theorem trim_eq_self {text : Text} (first : ∀ char ∈ text.head?, isBlank char = false)
    (last : ∀ char ∈ text.getLast?, isBlank char = false) : trim text = text := by
  have left : trimLeft text = text := dropWhile_eq_self first
  have right : text.reverse.dropWhile isBlank = text.reverse :=
    dropWhile_eq_self (by simpa using last)
  rw [trim, left, trimRight, right, List.reverse_reverse]

/-- A text without blank characters at its ends is what is left of it between blank
characters. -/
theorem trim_between {before text after : Text} (nonempty : text ≠ [])
    (first : ∀ char ∈ text.head?, isBlank char = false)
    (last : ∀ char ∈ text.getLast?, isBlank char = false)
    (blankBefore : ∀ char ∈ before, isBlank char = true)
    (blankAfter : ∀ char ∈ after, isBlank char = true) :
    trim (before ++ text ++ after) = text := by
  have left : trimLeft (before ++ text ++ after) = text ++ after := by
    rw [trimLeft, List.append_assoc, List.dropWhile_append_of_pos blankBefore]
    apply dropWhile_eq_self
    rwa [List.head?_append_of_ne_nil _ nonempty]
  have noneAfter : after.reverse.dropWhile isBlank = [] := by
    apply List.dropWhile_eq_nil_iff.mpr
    intro char member
    exact blankAfter char (List.mem_reverse.mp member)
  have solid : text.reverse.dropWhile isBlank = text.reverse := by
    apply dropWhile_eq_self
    simpa using last
  rw [trim, left, trimRight, List.reverse_append, List.dropWhile_append, noneAfter]
  simp [solid]

theorem trim_path {text : Text} (path : text.all isPathChar = true) : trim text = text :=
  trim_eq_self (head?_isBlank_of_isPathChar path) (getLast?_isBlank_of_isPathChar path)

theorem trim_trimLeft (text : Text) : trim (trimLeft text) = trim text := by
  rw [trim, trim, trimLeft_trimLeft]

theorem trim_infix (text : Text) : trim text <:+: text := by
  have left : trimLeft text <:+ text := List.dropWhile_suffix isBlank
  have right : trimRight (trimLeft text) <+: trimLeft text := by
    rw [← List.reverse_suffix, trimRight, List.reverse_reverse]
    exact List.dropWhile_suffix isBlank
  exact right.isInfix.trans left.isInfix

/-- Trimming from the right does not reach what stands before a text that is
not blank. -/
theorem trimRight_append {text : Text} (solid : text.any (!isBlank ·) = true) (before : Text) :
    trimRight (before ++ text) = before ++ trimRight text := by
  have left : (text.reverse.dropWhile isBlank).isEmpty = false := by
    cases empty : (text.reverse.dropWhile isBlank).isEmpty with
    | false => rfl
    | true =>
        rw [List.isEmpty_iff, List.dropWhile_eq_nil_iff] at empty
        obtain ⟨char, member, notBlank⟩ := List.any_eq_true.mp solid
        rw [empty char (List.mem_reverse.mpr member)] at notBlank
        exact absurd notBlank (by decide)
  rw [trimRight, List.reverse_append, List.dropWhile_append, left]
  simp [trimRight]

theorem mem_trim {text : Text} {char : Char} (solid : isBlank char = false)
    (member : char ∈ text) : char ∈ trim text := by
  have kept : ∀ {text : Text}, char ∈ text → char ∈ text.dropWhile isBlank := by
    intro text member
    rw [← List.takeWhile_append_dropWhile (p := isBlank) (l := text)] at member
    rcases List.mem_append.mp member with front | behind
    · rw [List.mem_takeWhile_imp front] at solid
      exact absurd solid (by decide)
    · exact behind
  rw [trim, trimRight, List.mem_reverse]
  exact kept (List.mem_reverse.mpr (kept member))

theorem trim_append {front text : Text} (nonempty : front ≠ [])
    (first : ∀ char ∈ front.head?, isBlank char = false) (solid : text.any (!isBlank ·) = true) :
    trim (front ++ text) = front ++ trimRight text := by
  have kept : trimLeft (front ++ text) = front ++ text := by
    apply dropWhile_eq_self
    rwa [List.head?_append_of_ne_nil _ nonempty]
  rw [trim, kept, trimRight_append solid]

theorem trim_concat {char : Char} (solid : isBlank char = false) (text : Text) :
    trim (text ++ [char]) = trimLeft text ++ [char] := by
  have left : trimLeft (text ++ [char]) = trimLeft text ++ [char] := by
    rw [trimLeft, List.dropWhile_append]
    cases blank : text.dropWhile isBlank with
    | nil => simp [trimLeft, blank, solid]
    | cons first later => simp [trimLeft, blank]
  have right : trimRight [char] = [char] := by simp [trimRight, solid]
  rw [trim, left, trimRight_append (by simp [solid]), right]

theorem exists_eq_append_trim (text : Text) :
    ∃ before after, text = before ++ trim text ++ after ∧
      (∀ char ∈ before, isBlank char = true) ∧ ∀ char ∈ after, isBlank char = true := by
  have left : text.takeWhile isBlank ++ trimLeft text = text := List.takeWhile_append_dropWhile
  have right : trim text ++ ((trimLeft text).reverse.takeWhile isBlank).reverse =
      trimLeft text := by
    rw [trim, trimRight, ← List.reverse_append, List.takeWhile_append_dropWhile,
      List.reverse_reverse]
  refine ⟨text.takeWhile isBlank, ((trimLeft text).reverse.takeWhile isBlank).reverse, ?_,
    fun char => List.mem_takeWhile_imp,
    fun char member => List.mem_takeWhile_imp (List.mem_reverse.mp member)⟩
  rw [List.append_assoc, right, left]

theorem trim_trim (text : Text) : trim (trim text) = trim text := by
  have first : ∀ char ∈ (trim text).head?, isBlank char = false := by
    intro char first
    obtain ⟨rest, whole⟩ : trim text <+: trimLeft text := by
      rw [← List.reverse_suffix, trim, trimRight, List.reverse_reverse]
      exact List.dropWhile_suffix isBlank
    refine @head?_trimLeft text char ?_
    rw [← whole, List.head?_append, Option.mem_def.mp first]
    rfl
  have kept : trimLeft (trim text) = trim text := dropWhile_eq_self first
  rw [trim, kept, trim, trimRight_trimRight]

end Stencil.Text
