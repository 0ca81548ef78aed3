import Stencil.Proofs.Text.Words
import Stencil.Template.Arguments

/-!
# Cuts outside quoted spans

A text that opens and closes its quoted spans, and has the delimiter inside them
only, is passed as a whole by a cut, whatever follows it.  One such text after
another is such a text, so what a cut makes of a list of them is found part by
part.  A text between quotes loses these, and any other text stays as it is.
-/

namespace Stencil

namespace Arguments

variable {delimiter : Char}

theorem eq_of_isQuote {char : Char} (quote : isQuote char = true) : char = '"' ∨ char = '\'' := by
  simpa [isQuote] using quote

theorem isQuote_eq_false {char : Char} (outside : char ∉ Text.separators) :
    isQuote char = false := by
  cases quote : isQuote char with
  | false => rfl
  | true =>
      rcases eq_of_isQuote quote with rfl | rfl
      · exact absurd (by decide) outside
      · exact absurd (by decide) outside

theorem isBlank_of_isQuote {quote : Char} (isQuote : isQuote quote = true) :
    Text.isBlank quote = false := by
  rcases eq_of_isQuote isQuote with rfl | rfl
  · decide
  · decide

theorem isQuoted_between {quote : Char} (isQuote : isQuote quote = true) (content : Text) :
    isQuoted (quote :: (content ++ [quote])) = true := by
  simp [isQuoted, isQuote]

theorem unquote_between {quote : Char} (isQuote : isQuote quote = true) (content : Text) :
    unquote (quote :: (content ++ [quote])) = content := by
  rw [unquote, if_pos (isQuoted_between isQuote content)]
  simp

theorem isQuoted_eq_false {text : Text} (first : ∀ char ∈ text.head?, isQuote char = false) :
    isQuoted text = false := by
  cases text with
  | nil => rfl
  | cons char text => rw [isQuoted, first char (by simp), Bool.false_and]

theorem isQuoted_concat {text : Text} {quote : Char} (absent : quote ∉ text) :
    isQuoted (text ++ [quote]) = false := by
  cases text with
  | nil => simp [isQuoted]
  | cons char text =>
      have differs : quote ≠ char := by
        rintro rfl
        exact absent List.mem_cons_self
      simp [isQuoted, differs]

/-- Whether a text is passed as a whole by a cut at a delimiter, whatever follows. -/
def Closed (delimiter : Char) (text : Text) : Prop :=
  ∀ rest, stretches [delimiter] none (text ++ rest) =
    (text ++ (stretches [delimiter] none rest).1, (stretches [delimiter] none rest).2)

theorem closed_nil : Closed delimiter [] := fun _ => rfl

theorem closed_append {first second : Text} (left : Closed delimiter first)
    (right : Closed delimiter second) : Closed delimiter (first ++ second) := by
  intro rest
  rw [List.append_assoc, left, right, List.append_assoc]

theorem closed_singleton {char : Char} (noQuote : isQuote char = false)
    (differs : char ≠ delimiter) : Closed delimiter [char] := by
  intro rest
  simp [stretches, noQuote, differs, push]

theorem closed_plain {text : Text}
    (plain : ∀ char ∈ text, isQuote char = false ∧ char ≠ delimiter) : Closed delimiter text := by
  induction text with
  | nil => exact closed_nil
  | cons char text ih =>
      obtain ⟨here, later⟩ := List.forall_mem_cons.mp plain
      exact closed_append (closed_singleton here.1 here.2) (ih later)

theorem closed_path {path : Text} (solid : path.all Text.isPathChar = true)
    (separator : delimiter ∈ Text.separators) : Closed delimiter path := by
  apply closed_plain
  intro char member
  have outside := Text.not_mem_separators_of_isPathChar (List.all_eq_true.mp solid char member)
  refine ⟨isQuote_eq_false outside, ?_⟩
  rintro rfl
  exact outside separator

theorem split_append_cons {text : Text} (closed : Closed delimiter text)
    (noQuote : isQuote delimiter = false) (rest : Text) :
    split [delimiter] (text ++ delimiter :: rest) =
      Text.trim text :: split [delimiter] rest := by
  have here : stretches [delimiter] none (delimiter :: rest) =
      ([], (stretches [delimiter] none rest).1 :: (stretches [delimiter] none rest).2) := by
    simp [stretches, noQuote]
  rw [split, closed, here]
  simp [parts, split]

theorem split_eq_singleton {text : Text} (closed : Closed delimiter text)
    (solid : Text.trim text ≠ []) : split [delimiter] text = [Text.trim text] := by
  have whole := closed []
  rw [List.append_nil] at whole
  rw [split, whole]
  simp [stretches, parts, solid]

end Arguments

end Stencil
