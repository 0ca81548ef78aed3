import Stencil.Proofs.Text.Inert
import Stencil.Text.Case

/-!
# Upper and lower case without braces

Writing a text in another case makes no brace.  An ASCII character that is no
brace becomes none, the characters that become several are listed, and the runs
of all others keep away from the codes of the braces.
-/

namespace Stencil.Text

theorem isInner_ofNat {code : Nat} (noOpening : code ≠ 0x7B) (noClosing : code ≠ 0x7D) :
    Tag.isInner (Char.ofNat code) = true := by
  -- A number that is no code stands for the character with the code zero.
  have number : (Char.ofNat code).toNat = code ∨ (Char.ofNat code).toNat = 0 := by
    by_cases valid : code.isValidChar
    · rw [Char.ofNat, dif_pos valid]
      exact .inl rfl
    · rw [Char.ofNat, dif_neg valid]
      exact .inr rfl
  apply isInner_iff.mpr
  constructor
  · intro same
    rw [same] at number
    have opening : '\x7b'.toNat = 0x7B := rfl
    omega
  · intro same
    rw [same] at number
    have closing : '\x7d'.toNat = 0x7D := rfl
    omega

/-- Whether a run of characters beyond ASCII leads past the braces. -/
def passesBraces : Nat × Nat × Nat × Int → Bool
  | (first, last, _, distance) =>
      last < 128 || decide ((0x7D : Int) < first + distance) || decide (last + distance < (0x7B : Int))

theorem isInner_mapByRuns {runs : List (Nat × Nat × Nat × Int)}
    (past : runs.all passesBraces = true) {char : Char} (beyond : 128 ≤ char.toNat) :
    Tag.isInner (mapByRuns runs char) = true := by
  rw [mapByRuns]
  split
  · next first last step distance found =>
      have within := List.find?_some found
      have passes := List.all_eq_true.mp past _ (List.mem_of_find?_eq_some found)
      simp only [Bool.and_eq_true, decide_eq_true_eq] at within
      simp only [passesBraces, Bool.or_eq_true, decide_eq_true_eq] at passes
      apply isInner_ofNat
      · omega
      · omega
  · apply isInner_iff.mpr
    constructor
    · rintro rfl
      exact absurd beyond (by decide)
    · rintro rfl
      exact absurd beyond (by decide)

theorem isInner_of_ascii (change : Char → Char)
    (kept : ∀ code < 128, Tag.isInner (Char.ofNat code) = true →
      Tag.isInner (change (Char.ofNat code)) = true)
    {char : Char} (ascii : char.toNat < 128) (inner : Tag.isInner char = true) :
    Tag.isInner (change char) = true := by
  have changed := kept char.toNat ascii
  rw [Char.ofNat_toNat] at changed
  exact changed inner

theorem isBraceFree_upperChar {char : Char} (inner : Tag.isInner char = true) :
    isBraceFree (upperChar char) = true := by
  unfold upperChar
  split
  · next ascii =>
      have capital := isInner_of_ascii Char.toUpper (by decide +kernel) ascii inner
      rw [isBraceFree_cons, capital]
      rfl
  · next beyond =>
      split
      · next codes special =>
          have listed : upperSpecial.all (fun entry =>
              isBraceFree (entry.2.map Char.ofNat)) = true := by decide +kernel
          obtain ⟨before, after, whole, _⟩ := List.lookup_eq_some_iff.mp special
          have member : (char.toNat, codes) ∈ upperSpecial := by
            rw [whole]
            exact List.mem_append_right before List.mem_cons_self
          exact List.all_eq_true.mp listed _ member
      · have capital : Tag.isInner (mapByRuns upperRuns char) = true :=
          isInner_mapByRuns (by decide +kernel) (by omega)
        rw [isBraceFree_cons, capital]
        rfl

theorem isBraceFree_lowerChar {char : Char} (inner : Tag.isInner char = true) :
    isBraceFree (lowerChar char) = true := by
  unfold lowerChar
  split
  · next ascii =>
      have small := isInner_of_ascii Char.toLower (by decide +kernel) ascii inner
      rw [isBraceFree_cons, small]
      rfl
  · next beyond =>
      split
      · decide
      · have small : Tag.isInner (mapByRuns lowerRuns char) = true :=
          isInner_mapByRuns (by decide +kernel) (by omega)
        rw [isBraceFree_cons, small]
        rfl

theorem isBraceFree_upper {text : Text} (free : isBraceFree text = true) :
    isBraceFree (upper text) = true :=
  isBraceFree_flatMap (fun _ inner => isBraceFree_upperChar inner) free

theorem isBraceFree_lowerFrom (earlier : Text) {text : Text} (free : isBraceFree text = true) :
    isBraceFree (lowerFrom earlier text) = true := by
  induction text generalizing earlier with
  | nil => rfl
  | cons char text ih =>
      rw [isBraceFree_cons, Bool.and_eq_true] at free
      rw [lowerFrom, isBraceFree_append, ih (char :: earlier) free.2, Bool.and_true]
      split
      · split
        · decide
        · decide
      · exact isBraceFree_lowerChar free.1

theorem isBraceFree_lower {text : Text} (free : isBraceFree text = true) :
    isBraceFree (lower text) = true :=
  isBraceFree_lowerFrom [] free

theorem isBraceFree_capitalize {text : Text} (free : isBraceFree text = true) :
    isBraceFree (capitalize text) = true := by
  cases text with
  | nil => rfl
  | cons char text =>
      rw [isBraceFree_cons, Bool.and_eq_true] at free
      rw [capitalize, isBraceFree_append, isBraceFree_upperChar free.1, isBraceFree_lower free.2]
      rfl

end Stencil.Text
