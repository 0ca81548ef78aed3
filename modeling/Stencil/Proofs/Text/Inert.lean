import Stencil.Template.Tag

/-!
# Inert texts

A tag begins with two opening braces.  An inert text has no two of them in a
row and does not end with one, so that no tag begins inside it, whatever
follows.  Texts without braces are inert, and so is one inert text after
another; the compact form of a mapping is inert although it has braces.
-/

namespace Stencil.Text

/-- Whether a text has no brace in it. -/
def isBraceFree (text : Text) : Bool :=
  text.all Tag.isInner

theorem isInner_iff {char : Char} :
    Tag.isInner char = true ↔ char ≠ '\x7b' ∧ char ≠ '\x7d' := by
  simp [Tag.isInner]

theorem isInner_of_mem {text : Text} (free : isBraceFree text = true) :
    ∀ char ∈ text, Tag.isInner char = true := by
  simpa [isBraceFree] using free

theorem isBraceFree_of_forall {text : Text}
    (inner : ∀ char ∈ text, Tag.isInner char = true) : isBraceFree text = true := by
  simpa [isBraceFree] using inner

theorem not_mem_of_isBraceFree {text : Text} (free : isBraceFree text = true) :
    '\x7b' ∉ text ∧ '\x7d' ∉ text :=
  ⟨fun member => (isInner_iff.mp (isInner_of_mem free _ member)).1 rfl,
    fun member => (isInner_iff.mp (isInner_of_mem free _ member)).2 rfl⟩

theorem isBraceFree_of_not_mem {text : Text} (noOpening : '\x7b' ∉ text)
    (noClosing : '\x7d' ∉ text) : isBraceFree text = true := by
  apply isBraceFree_of_forall
  intro char member
  apply isInner_iff.mpr
  constructor
  · rintro rfl
    exact noOpening member
  · rintro rfl
    exact noClosing member

@[simp] theorem isBraceFree_append (first second : Text) :
    isBraceFree (first ++ second) = (isBraceFree first && isBraceFree second) := by
  simp [isBraceFree]

@[simp] theorem isBraceFree_cons (char : Char) (text : Text) :
    isBraceFree (char :: text) = (Tag.isInner char && isBraceFree text) := by
  simp [isBraceFree]

theorem isBraceFree_flatMap {change : Char → Text}
    (kept : ∀ char, Tag.isInner char = true → isBraceFree (change char) = true) {text : Text}
    (free : isBraceFree text = true) : isBraceFree (text.flatMap change) = true := by
  apply isBraceFree_of_forall
  intro char member
  obtain ⟨source, among, inside⟩ := List.mem_flatMap.mp member
  exact isInner_of_mem (kept source (isInner_of_mem free source among)) char inside

/-- Whether no tag can begin inside a text, whatever follows it. -/
def isInert : Text → Bool
  | [] => true
  | char :: text => (char != '\x7b' || text.head?.any (· != '\x7b')) && isInert text

theorem isInert_of_isBraceFree {text : Text} (free : isBraceFree text = true) :
    isInert text = true := by
  induction text with
  | nil => rfl
  | cons char text ih =>
      rw [isBraceFree_cons, Bool.and_eq_true] at free
      have notOpening : char ≠ '\x7b' := (isInner_iff.mp free.1).1
      simp [isInert, notOpening, ih free.2]

theorem isInert_append {first second : Text} (left : isInert first = true)
    (right : isInert second = true) : isInert (first ++ second) = true := by
  induction first with
  | nil => exact right
  | cons char first ih =>
      simp only [isInert, Bool.and_eq_true, Bool.or_eq_true] at left
      obtain ⟨here, later⟩ := left
      simp only [List.cons_append, isInert, Bool.and_eq_true, Bool.or_eq_true]
      refine ⟨?_, ih later⟩
      rcases here with notOpening | next
      · exact .inl notOpening
      · cases first with
        | nil => simp at next
        | cons following first => exact .inr (by simpa using next)

theorem isInert_of_suffix {text tail : Text} (inert : isInert text = true)
    (suffix : tail <:+ text) : isInert tail = true := by
  obtain ⟨before, rfl⟩ := suffix
  induction before with
  | nil => exact inert
  | cons char before ih =>
      rw [List.cons_append, isInert, Bool.and_eq_true] at inert
      exact ih inert.2

/-- A text inside which no tag begins. -/
structure Inert where
  text : Text
  inert : isInert text = true

namespace Inert

def empty : Inert := ⟨[], rfl⟩

/-- A text as an inert one.  Nothing is left of a text that is not inert. -/
def ofText (text : Text) : Inert :=
  if inert : isInert text = true then ⟨text, inert⟩ else empty

@[simp] theorem text_ofText {text : Text} (inert : isInert text = true) :
    (ofText text).text = text := by
  simp [ofText, inert]

@[simp] theorem text_empty : empty.text = [] := rfl

end Inert

theorem after?_append (head more text : Text) :
    after? (head ++ more) text = (after? head text).bind (after? more) := by
  induction head generalizing text with
  | nil => rfl
  | cons expected head ih =>
      cases text with
      | nil => rfl
      | cons char text =>
          by_cases same : expected = char
          · simp [after?, same, ih]
          · simp [after?, same]

/-- Two opening braces are found nowhere in an inert text. -/
theorem after?_opening_of_isInert {char : Char} {text : Text}
    (inert : isInert (char :: text) = true) (rest : Text) :
    after? Tag.opening (char :: text ++ rest) = none := by
  simp only [isInert, Bool.and_eq_true, Bool.or_eq_true, bne_iff_ne, ne_eq] at inert
  obtain ⟨notOpening | next, _⟩ := inert
  · simp [Tag.opening, after?, Ne.symm notOpening]
  · cases text with
    | nil => simp at next
    | cons following text =>
        have differs : '\x7b' ≠ following := by simpa using Ne.symm (by simpa using next)
        by_cases opening : '\x7b' = char
        · simp [Tag.opening, after?, opening.symm, differs]
        · simp [Tag.opening, after?, opening]

theorem after?_interior {word interior : Text} (free : isBraceFree word = true) (rest : Text) :
    after? word (interior ++ Tag.closing ++ rest) =
      (after? word interior).map (· ++ Tag.closing ++ rest) := by
  induction word generalizing interior with
  | nil => simp [after?]
  | cons expected word ih =>
      rw [isBraceFree_cons, Bool.and_eq_true] at free
      cases interior with
      | nil =>
          have differs : expected ≠ '\x7d' := (isInner_iff.mp free.1).2
          simp [after?, Tag.closing, differs]
      | cons char interior =>
          by_cases same : expected = char
          · simpa [after?, same] using ih free.2
          · simp [after?, same]

/-- The inside of a tag ends at its first pair of closing braces. -/
theorem cut?_interior {interior : Text} (free : isBraceFree interior = true) (rest : Text) :
    cut? Tag.closing (interior ++ Tag.closing ++ rest) = some (interior, rest) := by
  induction interior with
  | nil => simp [cut?, after?, Tag.closing]
  | cons char interior ih =>
      rw [isBraceFree_cons, Bool.and_eq_true] at free
      have differs : '\x7d' ≠ char := Ne.symm (isInner_iff.mp free.1).2
      have none : after? Tag.closing (char :: (interior ++ Tag.closing ++ rest)) = none := by
        simp [after?, Tag.closing, differs]
      simp only [List.cons_append, cut?]
      simp only [List.append_assoc] at none ih
      simp only [List.append_assoc]
      rw [none]
      simp [ih free.2]

theorem takeWhile_interior {accepts : Char → Bool} (stops : accepts '\x7d' = false)
    (interior rest : Text) :
    (interior ++ Tag.closing ++ rest).takeWhile accepts = interior.takeWhile accepts := by
  induction interior with
  | nil => simp [Tag.closing, stops]
  | cons char interior ih =>
      by_cases accepted : accepts char = true
      · simpa [accepted] using ih
      · simp [accepted]

theorem dropWhile_interior {accepts : Char → Bool} (stops : accepts '\x7d' = false)
    (interior rest : Text) :
    (interior ++ Tag.closing ++ rest).dropWhile accepts =
      interior.dropWhile accepts ++ Tag.closing ++ rest := by
  induction interior with
  | nil => simp [Tag.closing, stops]
  | cons char interior ih =>
      by_cases accepted : accepts char = true
      · simpa [accepted] using ih
      · simp [accepted]

end Stencil.Text
