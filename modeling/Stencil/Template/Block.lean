import Stencil.Template.Tag

/-!
# Blocks

The outermost blocks of a text.  A block runs from an opening tag to the tag
that closes it, past the blocks inside it; the first separator at its own
depth divides it.  An opening tag that is never closed is no tag.  The gaps
and the blocks of a text, put together, are the text again.
-/

namespace Stencil

/-- A block with the characters of its tags. -/
structure Block where
  opener : Text
  header : Text
  body : Text
  /-- The separator of a divided block and what follows it. -/
  division : Option (Text × Text)
  closer : Text
  deriving DecidableEq, Repr

namespace Block

/-- What follows the separator of a divided block. -/
def alternative? (block : Block) : Option Text :=
  block.division.map Prod.snd

/-- The characters of a block between its opening and its closing tag. -/
def content (body : Text) (division : Option (Text × Text)) : Text :=
  body ++ (division.map fun (separator, rest) => separator ++ rest).getD []

def source (block : Block) : Text :=
  block.opener ++ content block.body block.division ++ block.closer

/-- What stands between an opening tag and the tag that closes it, and the
pieces after that. -/
structure Inside where
  body : Text
  division : Option (Text × Text)
  closer : Text
  rest : List (Piece Tag.Mark)

namespace Inside

/-- More characters at the beginning. -/
def push (raw : Text) (inside : Inside) : Inside :=
  { inside with body := raw ++ inside.body }

/-- A separator at the beginning; it comes before all others. -/
def divide (raw : Text) (inside : Inside) : Inside :=
  { inside with body := [], division := some (raw, content inside.body inside.division) }

end Inside

open Tag in
/-- What stands up to the tag that closes a block, where `depth` blocks inside
it are still open. -/
def inside? : Nat → List (Piece Mark) → Option Inside
  | _, [] => none
  | depth, .plain char :: pieces => (inside? depth pieces).map (.push [char])
  | depth, .token raw (.opens _) :: pieces => (inside? (depth + 1) pieces).map (.push raw)
  | 0, .token raw .closes :: pieces => some ⟨[], none, raw, pieces⟩
  | depth + 1, .token raw .closes :: pieces => (inside? depth pieces).map (.push raw)
  | 0, .token raw .separates :: pieces => (inside? 0 pieces).map (.divide raw)
  | depth + 1, .token raw .separates :: pieces => (inside? (depth + 1) pieces).map (.push raw)

theorem rest_length_lt_of_inside? {depth : Nat} {pieces : List (Piece Tag.Mark)}
    {inside : Inside} (found : inside? depth pieces = some inside) :
    inside.rest.length < pieces.length := by
  fun_induction inside? depth pieces generalizing inside with
  | case1 => exact absurd found (by simp)
  | case4 =>
      cases found
      simp
  | case2 _ _ _ ih | case3 _ _ _ _ ih | case5 _ _ _ ih | case6 _ _ ih | case7 _ _ _ ih =>
      obtain ⟨inner, here, rfl⟩ := Option.map_eq_some_iff.mp found
      have shorter := ih here
      simp only [Inside.push, Inside.divide, List.length_cons]
      omega

theorem source_of_inside? {depth : Nat} {pieces : List (Piece Tag.Mark)}
    {inside : Inside} (found : inside? depth pieces = some inside) :
    pieces.flatMap Piece.source =
      content inside.body inside.division ++ inside.closer
        ++ inside.rest.flatMap Piece.source := by
  fun_induction inside? depth pieces generalizing inside with
  | case1 => exact absurd found (by simp)
  | case4 =>
      cases found
      simp [content, Piece.source]
  | case2 _ _ _ ih | case3 _ _ _ _ ih | case5 _ _ _ ih | case6 _ _ ih | case7 _ _ _ ih =>
      obtain ⟨inner, here, rfl⟩ := Option.map_eq_some_iff.mp found
      simp [ih here, Inside.push, Inside.divide, content, Piece.source]

end Block

/-- The outermost blocks of a text, each with the gap before it, and the gap
after the last one. -/
structure Layout where
  parts : List (Text × Block)
  tail : Text
  deriving DecidableEq, Repr

namespace Layout

def source (layout : Layout) : Text :=
  (layout.parts.flatMap fun (gap, block) => gap ++ block.source) ++ layout.tail

def push (raw : Text) : Layout → Layout
  | ⟨[], tail⟩ => ⟨[], raw ++ tail⟩
  | ⟨(gap, block) :: parts, tail⟩ => ⟨(raw ++ gap, block) :: parts, tail⟩

@[simp] theorem source_push (raw : Text) (layout : Layout) :
    (layout.push raw).source = raw ++ layout.source := by
  obtain ⟨parts, tail⟩ := layout
  cases parts <;> simp [push, source]

def ofPieces : List (Piece Tag.Mark) → Layout
  | [] => ⟨[], []⟩
  | .token raw (.opens header) :: pieces =>
      match _found : Block.inside? 0 pieces with
      | some inside =>
          let later := ofPieces inside.rest
          ⟨([], ⟨raw, header, inside.body, inside.division, inside.closer⟩) :: later.parts,
            later.tail⟩
      | none => (ofPieces pieces).push raw
  | piece :: pieces => (ofPieces pieces).push piece.source
termination_by pieces => pieces.length
decreasing_by
  · have := Block.rest_length_lt_of_inside? _found
    simp
    omega
  · simp
  · simp

theorem source_ofPieces (pieces : List (Piece Tag.Mark)) :
    (ofPieces pieces).source = pieces.flatMap Piece.source := by
  fun_induction ofPieces pieces with
  | case1 => rfl
  | case2 raw header pieces inside found later ih =>
      have inner := Block.source_of_inside? found
      have outer : (ofPieces inside.rest).source = inside.rest.flatMap Piece.source := ih
      simp only [source] at outer
      simp [source, Block.source, inner, ← outer, Piece.source, later]
  | case3 raw header pieces found ih =>
      simp [ih, Piece.source]
  | case4 piece pieces plain ih =>
      simp [ih]

/-- The layout of a text by the tags that a matcher finds. -/
def ofText (marks : Matcher Tag.Mark) (text : Text) : Layout :=
  ofPieces (marks.pieces text)

theorem source_ofText (marks : Matcher Tag.Mark) (text : Text) :
    (ofText marks text).source = text := by
  rw [ofText, source_ofPieces, Matcher.flatMap_source_pieces]

/-- The blocks with the positions of their first character and of the first
character after them, in a text that begins at `start`. -/
def located (start : Nat) : List (Text × Block) → List (Nat × Nat × Block)
  | [] => []
  | (gap, block) :: parts =>
      let first := start + gap.length
      let past := first + block.source.length
      (first, past, block) :: located past parts

/-- The text in which each gap and each block has been written anew, from left
to right. -/
def weave {m : Type → Type} [Monad m] (gap : Text → m Text) (block : Block → m Text) :
    List (Text × Block) → Text → m Text
  | [], tail => gap tail
  | (before, found) :: parts, tail => do
      let before ← gap before
      let written ← block found
      let later ← weave gap block parts tail
      return before ++ written ++ later

/-- The text in which each block has been written anew, from left to right. -/
def replace {m : Type → Type} [Monad m] (block : Block → m Text) (layout : Layout) : m Text :=
  weave pure block layout.parts layout.tail

/-- The text in which each gap has been written anew. -/
def mapGaps (onGap : Text → Text) (layout : Layout) : Text :=
  (layout.parts.flatMap fun (gap, block) => onGap gap ++ block.source)
    ++ onGap layout.tail

theorem mapGaps_id (layout : Layout) : layout.mapGaps id = layout.source := rfl

end Layout

end Stencil
