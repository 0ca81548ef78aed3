import Stencil.Text.Blank

/-!
# Finding tokens in a text

A matcher reads one token at the beginning of a text.  The pieces of a text
are its tokens, found from left to right, and the characters between them; put
together they are the text again.
-/

namespace Stencil

/-- A way to read one token: its characters, what it says, and the rest. -/
structure Matcher (α : Type) where
  read : Text → Option (Text × α × Text)
  sound : ∀ {text raw token rest}, read text = some (raw, token, rest) →
    raw ≠ [] ∧ text = raw ++ rest

/-- A part of a text: a token, or a character outside all tokens. -/
inductive Piece (α : Type) where
  | plain (char : Char)
  | token (raw : Text) (meaning : α)

namespace Piece

def source : Piece α → Text
  | plain char => [char]
  | token raw _ => raw

/-- What the token of a piece says. -/
def token? : Piece α → Option α
  | plain _ => none
  | token _ meaning => some meaning

end Piece

namespace Matcher

/-- The token that consists of exactly the characters of `word`. -/
def literal (word : Text) (nonempty : word ≠ []) (token : α) : Matcher α where
  read text := (Text.after? word text).map fun rest => (word, token, rest)
  sound := by
    intro text raw found rest read
    simp only [Option.map_eq_some_iff, Prod.mk.injEq] at read
    obtain ⟨rest, after, rfl, rfl, rfl⟩ := read
    exact ⟨nonempty, Text.after?_eq_some_iff.mp after⟩

/-- The tokens of two matchers; the first one is tried first. -/
def orElse (first second : Matcher α) : Matcher α where
  read text := (first.read text).or (second.read text)
  sound := by
    intro text raw token rest read
    rcases Option.or_eq_some_iff.mp read with found | ⟨_, found⟩
    · exact first.sound found
    · exact second.sound found

theorem rest_length_lt (matcher : Matcher α) {text raw : Text} {token : α} {rest : Text}
    (read : matcher.read text = some (raw, token, rest)) : rest.length < text.length := by
  obtain ⟨nonempty, rfl⟩ := matcher.sound read
  have := List.length_pos_iff.mpr nonempty
  simp
  omega

def pieces (matcher : Matcher α) : Text → List (Piece α)
  | [] => []
  | char :: text =>
      match _read : matcher.read (char :: text) with
      | some (raw, token, rest) => .token raw token :: pieces matcher rest
      | none => .plain char :: pieces matcher text
termination_by text => text.length
decreasing_by
  · exact matcher.rest_length_lt _read
  · simp

theorem flatMap_source_pieces (matcher : Matcher α) (text : Text) :
    (matcher.pieces text).flatMap Piece.source = text := by
  fun_induction pieces matcher text with
  | case1 => rfl
  | case2 char text raw token rest read ih =>
      rw [List.flatMap_cons, ih]
      exact (matcher.sound read).2.symm
  | case3 char text read ih =>
      simp [Piece.source, ih]

def tokens (matcher : Matcher α) (text : Text) : List α :=
  (matcher.pieces text).filterMap Piece.token?

/-- The text with every token replaced by `replacement`. -/
def replaceAll (matcher : Matcher α) (replacement : Text) (text : Text) : Text :=
  (matcher.pieces text).flatMap fun
    | .plain char => [char]
    | .token _ _ => replacement

end Matcher

end Stencil
