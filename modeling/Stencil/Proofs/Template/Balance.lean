import Stencil.Proofs.Template.Tagged
import Stencil.Template.Block

/-!
# Blocks of a text made of parts

The layout of a text is found by one scan over its pieces.  A text is balanced
when the scan for a closing tag passes over it at any depth; then a block with
a balanced body is found as that block, whatever comes after it.  What a
rewriting of blocks or of gaps does to a text is put together from what it does
to its parts, and each part is described without regard to the rest.
-/

namespace Stencil

namespace Block

namespace Inside

@[simp] theorem push_nil (inside : Inside) : inside.push [] = inside := rfl

theorem push_push (first second : Text) (inside : Inside) :
    (inside.push second).push first = inside.push (first ++ second) := by
  simp [push]

end Inside

theorem map_push_map_push (first second : Text) (found : Option Inside) :
    (found.map (·.push second)).map (·.push first) = found.map (·.push (first ++ second)) := by
  rw [Option.map_map]
  congr 1
  funext inside
  exact Inside.push_push first second inside

theorem inside?_plain_append (depth : Nat) (raw : Text) (pieces : List (Piece Tag.Mark)) :
    inside? depth (raw.map .plain ++ pieces) = (inside? depth pieces).map (·.push raw) := by
  induction raw with
  | nil => simp
  | cons char raw ih =>
      rw [List.map_cons, List.cons_append, inside?, ih, map_push_map_push]
      rfl

/-- Whether the scan for a closing tag passes over a text at any depth. -/
def Balanced (marks : Matcher Tag.Mark) (text : Text) : Prop :=
  ∀ depth rest, inside? depth (marks.pieces (text ++ rest)) =
    (inside? depth (marks.pieces rest)).map (·.push text)

end Block

/-- A matcher of block tags that finds a tag by its inside alone. -/
structure BlockTags where
  marks : Matcher Tag.Mark
  mark? : Text → Option Tag.Mark
  opens : marks.StartsOpen
  pieces_tagged : ∀ {interior : Text}, Text.isBraceFree interior = true → ∀ rest : Text,
    marks.pieces (Tag.tagged interior ++ rest) =
      match mark? interior with
      | some mark => .token (Tag.tagged interior) mark :: marks.pieces rest
      | none => (Tag.tagged interior).map .plain ++ marks.pieces rest

namespace BlockTags

open Block

def ofIf : BlockTags where
  marks := Tag.ifMarks
  mark? := Tag.ifMark?
  opens := Tag.startsOpen_ifMarks
  pieces_tagged := Tag.pieces_ifMarks_tagged

def ofForeach : BlockTags where
  marks := Tag.foreachMarks
  mark? := Tag.foreachMark?
  opens := Tag.startsOpen_foreachMarks
  pieces_tagged := Tag.pieces_foreachMarks_tagged

variable (tags : BlockTags)

theorem balanced_nil : Balanced tags.marks [] := by
  intro depth rest
  simp

theorem balanced_append {first second : Text} (left : Balanced tags.marks first)
    (right : Balanced tags.marks second) : Balanced tags.marks (first ++ second) := by
  intro depth rest
  rw [List.append_assoc, left, right, map_push_map_push]

theorem balanced_inert {text : Text} (inert : Text.isInert text = true) :
    Balanced tags.marks text := by
  intro depth rest
  rw [Matcher.pieces_inert_append tags.opens inert, inside?_plain_append]

theorem pieces_tagged_of_some {interior : Text} (free : Text.isBraceFree interior = true)
    {mark : Tag.Mark} (marked : tags.mark? interior = some mark) (rest : Text) :
    tags.marks.pieces (Tag.tagged interior ++ rest) =
      .token (Tag.tagged interior) mark :: tags.marks.pieces rest := by
  rw [tags.pieces_tagged free, marked]

theorem pieces_tagged_of_none {interior : Text} (free : Text.isBraceFree interior = true)
    (silent : tags.mark? interior = none) (rest : Text) :
    tags.marks.pieces (Tag.tagged interior ++ rest) =
      (Tag.tagged interior).map .plain ++ tags.marks.pieces rest := by
  rw [tags.pieces_tagged free, silent]

theorem balanced_tagged {interior : Text} (free : Text.isBraceFree interior = true)
    (silent : tags.mark? interior = none) : Balanced tags.marks (Tag.tagged interior) := by
  intro depth rest
  rw [tags.pieces_tagged_of_none free silent, inside?_plain_append]

/-- The insides of the tags of a block: the opening and the closing one. -/
structure Frame where
  start : Text
  header : Text
  finish : Text
  startFree : Text.isBraceFree start = true
  finishFree : Text.isBraceFree finish = true
  opens : tags.mark? start = some (.opens header)
  closes : tags.mark? finish = some .closes

namespace Frame

variable {tags}

def block (frame : tags.Frame) (body : Text) : Block :=
  ⟨Tag.tagged frame.start, frame.header, body, none, Tag.tagged frame.finish⟩

def dividedBlock (frame : tags.Frame) (body separator alternative : Text) : Block :=
  ⟨Tag.tagged frame.start, frame.header, body,
    some (Tag.tagged separator, alternative), Tag.tagged frame.finish⟩

theorem inside?_closing (frame : tags.Frame) {body : Text}
    (balanced : Balanced tags.marks body) (rest : Text) :
    inside? 0 (tags.marks.pieces (body ++ (Tag.tagged frame.finish ++ rest))) =
      some ⟨body, none, Tag.tagged frame.finish, tags.marks.pieces rest⟩ := by
  rw [balanced, tags.pieces_tagged_of_some frame.finishFree frame.closes, inside?]
  simp [Inside.push]

theorem inside?_dividing (frame : tags.Frame) {body separator alternative : Text}
    (free : Text.isBraceFree separator = true)
    (separates : tags.mark? separator = some .separates)
    (balanced : Balanced tags.marks body) (otherwise : Balanced tags.marks alternative)
    (rest : Text) :
    inside? 0 (tags.marks.pieces
        (body ++ (Tag.tagged separator ++ (alternative ++ (Tag.tagged frame.finish ++ rest))))) =
      some ⟨body, some (Tag.tagged separator, alternative), Tag.tagged frame.finish,
        tags.marks.pieces rest⟩ := by
  rw [balanced, tags.pieces_tagged_of_some free separates, inside?,
    frame.inside?_closing otherwise]
  simp [Inside.push, Inside.divide, Block.content]

theorem balanced_block (frame : tags.Frame) {body : Text}
    (balanced : Balanced tags.marks body) :
    Balanced tags.marks (frame.block body).source := by
  intro depth rest
  have whole : (frame.block body).source ++ rest =
      Tag.tagged frame.start ++ (body ++ (Tag.tagged frame.finish ++ rest)) := by
    simp [block, source, content]
  rw [whole, tags.pieces_tagged_of_some frame.startFree frame.opens, inside?, balanced,
    tags.pieces_tagged_of_some frame.finishFree frame.closes, inside?,
    map_push_map_push, map_push_map_push]
  simp [block, source, content]

theorem balanced_dividedBlock (frame : tags.Frame) {body separator alternative : Text}
    (free : Text.isBraceFree separator = true)
    (separates : tags.mark? separator = some .separates)
    (balanced : Balanced tags.marks body) (otherwise : Balanced tags.marks alternative) :
    Balanced tags.marks (frame.dividedBlock body separator alternative).source := by
  intro depth rest
  have whole : (frame.dividedBlock body separator alternative).source ++ rest =
      Tag.tagged frame.start ++ (body ++ (Tag.tagged separator ++
        (alternative ++ (Tag.tagged frame.finish ++ rest)))) := by
    simp [dividedBlock, source, content]
  rw [whole, tags.pieces_tagged_of_some frame.startFree frame.opens, inside?, balanced,
    tags.pieces_tagged_of_some free separates, inside?, otherwise,
    tags.pieces_tagged_of_some frame.finishFree frame.closes, inside?,
    map_push_map_push, map_push_map_push, map_push_map_push, map_push_map_push]
  simp [dividedBlock, source, content]

end Frame

end BlockTags

namespace Layout

theorem push_nil (layout : Layout) : layout.push [] = layout := by
  obtain ⟨parts, tail⟩ := layout
  cases parts <;> rfl

theorem push_push (first second : Text) (layout : Layout) :
    (layout.push second).push first = layout.push (first ++ second) := by
  obtain ⟨parts, tail⟩ := layout
  cases parts <;> simp [push]

theorem ofPieces_plain_append (raw : Text) (pieces : List (Piece Tag.Mark)) :
    ofPieces (raw.map .plain ++ pieces) = (ofPieces pieces).push raw := by
  induction raw with
  | nil => simp [push_nil]
  | cons char raw ih =>
      rw [List.map_cons, List.cons_append, ofPieces, ih, push_push]
      · rfl
      · intro raw header impossible
        cases impossible

theorem ofPieces_of_inside? {raw header : Text} {pieces : List (Piece Tag.Mark)}
    {inside : Block.Inside} (found : Block.inside? 0 pieces = some inside) :
    ofPieces (.token raw (.opens header) :: pieces) =
      ⟨([], ⟨raw, header, inside.body, inside.division, inside.closer⟩) ::
          (ofPieces inside.rest).parts, (ofPieces inside.rest).tail⟩ := by
  rw [ofPieces]
  split
  · next here =>
      rw [found] at here
      cases here
      rfl
  · next none => rw [found] at none; exact absurd none (by simp)

theorem ofPieces_of_not_inside? {raw header : Text} {pieces : List (Piece Tag.Mark)}
    (unclosed : Block.inside? 0 pieces = none) :
    ofPieces (.token raw (.opens header) :: pieces) = (ofPieces pieces).push raw := by
  rw [ofPieces]
  split
  · next found => rw [unclosed] at found; exact absurd found (by simp)
  · rfl

variable (tags : BlockTags)

theorem ofText_plain_append {text rest : Text}
    (plain : tags.marks.pieces (text ++ rest) = text.map .plain ++ tags.marks.pieces rest) :
    ofText tags.marks (text ++ rest) = (ofText tags.marks rest).push text := by
  rw [ofText, plain, ofPieces_plain_append, ofText]

def blocks (layout : Layout) : List Block :=
  layout.parts.map Prod.snd

@[simp] theorem blocks_push (raw : Text) (layout : Layout) :
    (layout.push raw).blocks = layout.blocks := by
  obtain ⟨parts, tail⟩ := layout
  cases parts <;> rfl

def addBlock (block : Block) (layout : Layout) : Layout :=
  ⟨([], block) :: layout.parts, layout.tail⟩

@[simp] theorem blocks_addBlock (block : Block) (layout : Layout) :
    (layout.addBlock block).blocks = block :: layout.blocks := rfl

theorem ofText_block (frame : tags.Frame) {body : Text}
    (balanced : Block.Balanced tags.marks body) (rest : Text) :
    ofText tags.marks ((frame.block body).source ++ rest) =
      (ofText tags.marks rest).addBlock (frame.block body) := by
  have whole : (frame.block body).source ++ rest =
      Tag.tagged frame.start ++ (body ++ (Tag.tagged frame.finish ++ rest)) := by
    simp [BlockTags.Frame.block, Block.source, Block.content]
  rw [whole, ofText, tags.pieces_tagged_of_some frame.startFree frame.opens,
    ofPieces_of_inside? (frame.inside?_closing balanced rest)]
  rfl

theorem ofText_dividedBlock (frame : tags.Frame) {body separator alternative : Text}
    (free : Text.isBraceFree separator = true)
    (separates : tags.mark? separator = some .separates)
    (balanced : Block.Balanced tags.marks body)
    (otherwise : Block.Balanced tags.marks alternative) (rest : Text) :
    ofText tags.marks ((frame.dividedBlock body separator alternative).source ++ rest) =
      (ofText tags.marks rest).addBlock (frame.dividedBlock body separator alternative) := by
  have whole : (frame.dividedBlock body separator alternative).source ++ rest =
      Tag.tagged frame.start ++ (body ++ (Tag.tagged separator ++
        (alternative ++ (Tag.tagged frame.finish ++ rest)))) := by
    simp [BlockTags.Frame.dividedBlock, Block.source, Block.content]
  rw [whole, ofText, tags.pieces_tagged_of_some frame.startFree frame.opens,
    ofPieces_of_inside? (frame.inside?_dividing free separates balanced otherwise rest)]
  rfl

end Layout

end Stencil
