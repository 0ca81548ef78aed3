import Stencil.Proofs.Template.ClosingScan

/-!
# Blocks are outermost pairs

The scan for a closing tag starts anew at every opening tag.  An opening tag
that it leaves unclosed is in no pair, and neither is a closing tag that it meets
outside a block, so the blocks found behind such a tag are those of the pairs
behind it.  A block that is closed is the pair of its tags, around all pairs made
of the tags that were passed.
-/

namespace Stencil

/-- The block between the tags of a pair, cut out of the text. -/
def TagPair.block (text : Text) (divider : Option PlacedTag) (pair : TagPair) : Block where
  opener := text.extract pair.opener.start pair.opener.stop
  header := pair.opener.header
  body := text.extract pair.opener.stop ((divider.map (·.start)).getD pair.closer.start)
  division := divider.map fun tag =>
    (text.extract tag.start tag.stop, text.extract tag.stop pair.closer.start)
  closer := text.extract pair.closer.start pair.closer.stop

namespace Layout

open PlacedTag Pairing

/-- The blocks that one pass over the tags of a text gives, with the positions of
their first character and of the first character behind them. -/
def pairedBlocks (text : Text) (tags : List PlacedTag) : List (Nat × Nat × Block) :=
  (outermost (pairsOf tags)).map fun pair =>
    (pair.opener.start, pair.closer.stop, pair.block text (divider? tags (pairsOf tags) pair))

theorem located_push (start : Nat) (raw : Text) (layout : Layout) :
    located start (layout.push raw).parts = located (start + raw.length) layout.parts := by
  obtain ⟨parts, tail⟩ := layout
  cases parts with
  | nil => rfl
  | cons part parts =>
      obtain ⟨gap, block⟩ := part
      simp only [push, located, List.length_append, Nat.add_assoc]

theorem pairedBlocks_cons {text : Text} {tag : PlacedTag} {tags : List PlacedTag}
    (unpaired : pairsOf (tag :: tags) = pairsOf tags)
    (before : ∀ later ∈ tags, tag.start < later.start) :
    pairedBlocks text (tag :: tags) = pairedBlocks text tags := by
  rw [pairedBlocks, pairedBlocks, unpaired]
  apply List.map_congr_left
  intro pair member
  have among := (mem_of_mem_pairs (List.mem_filter.mp member).1).1.resolve_left List.not_mem_nil
  have outside : ∀ other ∈ [tag], pair.holds other = false := by
    intro other same
    rw [List.mem_singleton.mp same]
    exact TagPair.holds_of_start_le (Nat.le_of_lt (before pair.opener among))
  have none : ∀ other ∈ ([] : List TagPair), pair.encloses other = false := nofun
  have same : divider? (tag :: tags) (pairsOf tags) pair = divider? tags (pairsOf tags) pair :=
    divider?_append tags (pairsOf tags) outside none
  rw [same]


end Layout

namespace Block.Scan

open PlacedTag Pairing

variable {opener closer : PlacedTag} {pieces : List (Piece Tag.Mark)} {inside : Inside}
  {passed : List PlacedTag} {inner : List TagPair}
  (scan : Scan opener.stop [] pieces inside passed closer inner)

include scan

theorem pairsOf_passed : pairsOf passed = inner := by
  have run := scan.run [] []
  rw [List.append_nil, List.nil_append] at run
  rw [pairsOf, run]

theorem pairsOf_eq {header : Text} (opens : opener.mark = .opens header) :
    pairsOf (opener :: among opener.stop pieces) =
      pairsOf passed ++ ⟨opener, closer⟩ :: pairsOf (among closer.stop inside.rest) := by
  have through : passed.foldl step ⟨[opener], []⟩ = ⟨[opener], [] ++ inner⟩ := scan.run [opener] []
  rw [pairsOf, scan.tags, List.foldl_cons, step_opens opens, List.foldl_append, through,
    List.foldl_cons, step_closes scan.closes, foldl_step, scan.pairsOf_passed]
  simp [pairsOf]

theorem surrounds (solid : Solid (.token opener.raw opener.mark :: pieces)) :
    TagPair.Surrounds ⟨opener, closer⟩ passed (among closer.stop inside.rest) := by
  have order := pairwise_among opener.start (.token opener.raw opener.mark :: pieces)
  have long : ∀ tag ∈ among opener.start (.token opener.raw opener.mark :: pieces),
      tag.start < tag.stop := fun tag member => start_lt_stop_of_mem solid member
  change (opener :: among opener.stop pieces).Pairwise _ at order
  change ∀ tag ∈ opener :: among opener.stop pieces, _ at long
  rw [scan.tags] at order long
  obtain ⟨first, others⟩ := List.pairwise_cons.mp order
  obtain ⟨_, behind, before⟩ := List.pairwise_append.mp others
  obtain ⟨later, _⟩ := List.pairwise_cons.mp behind
  have opening := long _ List.mem_cons_self
  refine ⟨Nat.lt_of_lt_of_le opening (first closer (by simp)), ?_, ?_⟩
  · intro tag member
    have here := long tag (by simp [member])
    exact TagPair.holds_iff.mpr ⟨Nat.lt_of_lt_of_le opening (first tag (by simp [member])),
      Nat.lt_of_lt_of_le here (before tag member closer List.mem_cons_self)⟩
  · intro tag member
    exact Nat.lt_of_lt_of_le (long closer (by simp)) (later tag member)

theorem block_eq {text front rest : Text} (place : front.length = opener.start)
    (whole : text = front ++ (opener.raw ++ (content inside.body inside.division
      ++ (inside.closer ++ rest)))) :
    TagPair.block text (passed.find? fun tag => tag.mark = .separates &&
        (pairsOf passed).all fun pair => !pair.holds tag) ⟨opener, closer⟩ =
      ⟨opener.raw, opener.header, inside.body, inside.division, inside.closer⟩ := by
  obtain ⟨divider, found, divided, alternative, division⟩ := scan.divider
  rw [scan.pairsOf_passed, found]
  have closing := scan.place
  have openerText : text.extract opener.start opener.stop = opener.raw :=
    Text.extract_eq front _ (by rw [whole, List.append_assoc]) place rfl
  have closerText : text.extract closer.start closer.stop = inside.closer := by
    apply Text.extract_eq (front ++ opener.raw ++ content inside.body inside.division) rest
    · rw [whole]
      simp only [List.append_assoc]
    · rw [closing, List.length_append, List.length_append, place, PlacedTag.stop]
    · rw [PlacedTag.stop, scan.raw]
  -- What follows the body begins at the separator, if there is one.
  have bodyText : text.extract opener.stop ((divider.map (·.start)).getD closer.start) =
      inside.body := by
    apply Text.extract_eq (front ++ opener.raw)
      (content [] inside.division ++ (inside.closer ++ rest))
    · rw [whole, content, content]
      simp only [List.append_assoc, List.nil_append]
    · rw [List.length_append, place, PlacedTag.stop]
    · cases divider with
      | none =>
          rw [Option.map_none] at division
          rw [closing, division]
          simp [content]
      | some tag => exact (divided tag rfl).symm
  have divisionText : divider.map (fun tag => (text.extract tag.start tag.stop,
      text.extract tag.stop closer.start)) = inside.division := by
    cases divider with
    | none => exact division.symm
    | some tag =>
        have begins := divided tag rfl
        rw [Option.map_some] at division
        rw [division, Option.map_some]
        congr 2
        · apply Text.extract_eq (front ++ opener.raw ++ inside.body)
            (alternative ++ (inside.closer ++ rest))
          · rw [whole, content, division]
            simp only [List.append_assoc, Option.map_some, Option.getD_some]
          · rw [begins, List.length_append, List.length_append, place, PlacedTag.stop]
          · rfl
        · apply Text.extract_eq (front ++ opener.raw ++ inside.body ++ tag.raw)
            (inside.closer ++ rest)
          · rw [whole, content, division]
            simp only [List.append_assoc, Option.map_some, Option.getD_some]
          · rw [PlacedTag.stop, begins, PlacedTag.stop]
            simp only [List.length_append, place]
          · rw [closing, division, PlacedTag.stop, begins, content]
            simp only [Option.map_some, Option.getD_some, List.length_append]
            omega
  rw [TagPair.block, openerText, closerText, bodyText, divisionText]

end Block.Scan

namespace Layout

open PlacedTag Pairing

/-- The blocks of tags that begin with a closed block are that block and those
of the tags behind it. -/
theorem pairedBlocks_scan (opener : PlacedTag) {closer : PlacedTag} {header : Text}
    (opens : opener.mark = .opens header) {pieces : List (Piece Tag.Mark)}
    (solid : Solid (.token opener.raw opener.mark :: pieces)) {inside : Block.Inside}
    {passed : List PlacedTag} {inner : List TagPair}
    (scan : Block.Scan opener.stop [] pieces inside passed closer inner)
    {text front rest : Text} (place : front.length = opener.start)
    (whole : text = front ++ (opener.raw ++ (Block.content inside.body inside.division
      ++ (inside.closer ++ rest)))) :
    pairedBlocks text (opener :: among opener.stop pieces) =
      (opener.start, closer.stop,
          ⟨opener.raw, opener.header, inside.body, inside.division, inside.closer⟩) ::
        pairedBlocks text (among closer.stop inside.rest) := by
  have around := scan.surrounds solid
  rw [pairedBlocks, scan.pairsOf_eq opens, around.outermost_eq, List.map_cons, scan.tags,
    around.divider?_self opens scan.closes, scan.block_eq place whole, pairedBlocks]
  congr 1
  apply List.map_congr_left
  intro next member
  have same := around.divider?_later (List.mem_filter.mp member).1
  dsimp only at same
  rw [same]

/-- A tag that is in no pair, and the text up to the tags behind it. -/
theorem located_push_eq {text raw : Text} {mark : Tag.Mark} {pieces : List (Piece Tag.Mark)}
    {start : Nat} (long : raw ≠ [])
    (unpaired : pairsOf (⟨start, raw, mark⟩ :: among (start + raw.length) pieces) =
      pairsOf (among (start + raw.length) pieces))
    (later : located (start + raw.length) (ofPieces pieces).parts =
      pairedBlocks text (among (start + raw.length) pieces)) :
    located start ((ofPieces pieces).push raw).parts =
      pairedBlocks text (among start (.token raw mark :: pieces)) := by
  have before : ∀ tag ∈ among (start + raw.length) pieces, start < tag.start := by
    intro tag member
    have behind := start_le_of_mem member
    have longer := List.length_pos_iff.mpr long
    omega
  rw [located_push, later, among, pairedBlocks_cons unpaired before]

theorem pairsOf_opens {raw header : Text} {pieces : List (Piece Tag.Mark)} (start : Nat)
    (unclosed : Block.inside? 0 pieces = none) :
    pairsOf (⟨start, raw, .opens header⟩ :: among (start + raw.length) pieces) =
      pairsOf (among (start + raw.length) pieces) := by
  obtain ⟨left, inner, run⟩ :=
    Block.foldl_step_of_inside?_eq_none (start + raw.length) [] unclosed
  have waiting := run [⟨start, raw, .opens header⟩]
  have alone := run []
  rw [List.nil_append] at waiting alone
  rw [pairsOf, List.foldl_cons, step_opens rfl, waiting, pairsOf, alone]

/-- The blocks found in pieces behind a text are those of the pairs of their
tags. -/
theorem located_ofPieces {pieces : List (Piece Tag.Mark)} (solid : Solid pieces)
    {text : Text} (front : Text) (whole : text = front ++ pieces.flatMap Piece.source) :
    located front.length (ofPieces pieces).parts =
      pairedBlocks text (among front.length pieces) := by
  have stepped : ∀ front raw : Text, front.length + raw.length = (front ++ raw).length :=
    fun front raw => List.length_append.symm
  fun_induction ofPieces pieces generalizing front with
  | case1 => rfl
  | case2 raw header pieces inside found later ih =>
      obtain ⟨passed, closer, inner, scan⟩ :=
        Block.exists_scan (front.length + raw.length) [] solid.tail
          (by simp) found
      have source := Block.source_of_inside? found
      have around : text = front ++ (raw ++ (Block.content inside.body inside.division
          ++ (inside.closer ++ inside.rest.flatMap Piece.source))) := by
        rw [whole, List.flatMap_cons, source]
        simp [Piece.source]
      have past : closer.stop = (front ++ raw ++ Block.content inside.body inside.division
          ++ inside.closer).length := by
        rw [PlacedTag.stop, scan.place, scan.raw]
        simp only [List.length_append]
      have rest : located closer.stop (ofPieces inside.rest).parts =
          pairedBlocks text (among closer.stop inside.rest) := by
        rw [past]
        apply ih fun raw mark member =>
          solid.tail raw mark ((Block.rest_suffix_of_inside? found).subset member)
        rw [around]
        simp only [List.append_assoc]
      have tags : pairedBlocks text (among front.length (.token raw (.opens header) :: pieces)) =
          _ := pairedBlocks_scan ⟨front.length, raw, .opens header⟩ rfl solid scan rfl
            around
      have size : front.length + ([] : Text).length
          + (Block.source ⟨raw, header, inside.body, inside.division, inside.closer⟩).length =
            closer.stop := by
        rw [past]
        simp [Block.source]
      rw [tags, ← rest]
      simp only [located, size]
      rfl
  | case3 raw header pieces unclosed ih =>
      apply located_push_eq (solid raw _ List.mem_cons_self) (pairsOf_opens _ unclosed)
      rw [stepped]
      apply ih solid.tail
      rw [whole]
      simp [Piece.source]
  | case4 piece pieces plain ih =>
      have later := ih solid.tail (front ++ piece.source) (by rw [whole]; simp)
      rw [← stepped] at later
      cases piece with
      | plain char => rw [located_push, later]; rfl
      | token raw mark =>
          apply located_push_eq (solid raw _ List.mem_cons_self) _ later
          cases mark with
          | opens header => exact absurd rfl (plain raw header)
          | closes => rfl
          | separates => rfl

end Layout

namespace Matcher

theorem solid_pieces (marks : Matcher Tag.Mark) (text : Text) : Solid (marks.pieces text) := by
  intro raw mark member
  obtain ⟨_, _, read⟩ := marks.exists_read_of_mem_pieces member
  exact (marks.sound read).1

end Matcher

/-- The kinds of blocks. -/
inductive BlockKind where
  | conditional
  | loop
  deriving DecidableEq, Repr

namespace BlockKind

def marks : BlockKind → Matcher Tag.Mark
  | conditional => Tag.ifMarks
  | loop => Tag.foreachMarks

def closingTag : BlockKind → Text
  | conditional => Tag.endifTag
  | loop => Tag.endforeachTag

theorem read_literal {word text raw rest : Text} {nonempty : word ≠ []} {mark found : Tag.Mark}
    (read : (Matcher.literal word nonempty mark).read text = some (raw, found, rest)) :
    raw = word ∧ found = mark := by
  obtain ⟨_, _, same⟩ := Option.map_eq_some_iff.mp read
  cases same
  exact ⟨rfl, rfl⟩

theorem read_ofHeader {matcher : Matcher Text} {text raw rest : Text} {found : Tag.Mark}
    (read : (Tag.Mark.ofHeader matcher).read text = some (raw, found, rest)) :
    ∃ header, found = .opens header := by
  obtain ⟨⟨_, header, _⟩, _, same⟩ := Option.map_eq_some_iff.mp read
  cases same
  exact ⟨header, rfl⟩

theorem raw_of_read {kind : BlockKind} {text raw rest : Text} {mark : Tag.Mark}
    (read : kind.marks.read text = some (raw, mark, rest)) :
    (mark = .closes → raw = kind.closingTag) ∧ (mark = .separates → raw = Tag.elseTag) := by
  cases kind with
  | conditional =>
      rcases Option.or_eq_some_iff.mp read with opens | ⟨_, others⟩
      · obtain ⟨header, rfl⟩ := read_ofHeader opens
        exact ⟨nofun, nofun⟩
      · rcases Option.or_eq_some_iff.mp others with closes | ⟨_, separates⟩
        · obtain ⟨same, rfl⟩ := read_literal closes
          exact ⟨fun _ => same, nofun⟩
        · obtain ⟨same, rfl⟩ := read_literal separates
          exact ⟨nofun, fun _ => same⟩
  | loop =>
      rcases Option.or_eq_some_iff.mp read with opens | ⟨_, closes⟩
      · obtain ⟨header, rfl⟩ := read_ofHeader opens
        exact ⟨nofun, nofun⟩
      · obtain ⟨same, rfl⟩ := read_literal closes
        exact ⟨fun _ => same, nofun⟩

end BlockKind

namespace Layout

open PlacedTag Pairing

theorem le_of_mem_located {start : Nat} {parts : List (Text × Block)} {found : Nat × Nat × Block}
    (member : found ∈ located start parts) : start ≤ found.1 := by
  induction parts generalizing start with
  | nil => exact absurd member List.not_mem_nil
  | cons part parts ih =>
      rcases List.mem_cons.mp member with rfl | later
      · exact Nat.le_add_right _ _
      · have behind := ih later
        omega

/-- The blocks of a text stand one behind the other. -/
theorem pairwise_located (start : Nat) (parts : List (Text × Block)) :
    (located start parts).Pairwise fun found later => found.2.1 ≤ later.1 := by
  induction parts generalizing start with
  | nil => exact .nil
  | cons part parts ih => exact .cons (fun later member => le_of_mem_located member) (ih _)

/-- A block is what stands at its place in the text. -/
theorem extract_of_mem_located {parts : List (Text × Block)} {text tail : Text} (front : Text)
    (whole : text = front ++ source ⟨parts, tail⟩) {first past : Nat} {block : Block}
    (member : (first, past, block) ∈ located front.length parts) :
    text.extract first past = block.source := by
  induction parts generalizing front with
  | nil => exact absurd member List.not_mem_nil
  | cons part parts ih =>
      obtain ⟨gap, found⟩ := part
      have later : text = (front ++ gap ++ found.source) ++ source ⟨parts, tail⟩ := by
        rw [whole]
        simp [source]
      rcases List.mem_cons.mp member with here | behind
      · cases here
        exact Text.extract_eq (front ++ gap) _ later List.length_append rfl
      · apply ih _ later
        rwa [List.length_append, List.length_append]

theorem replace_source {m : Type → Type} [Monad m] [LawfulMonad m] (layout : Layout) :
    layout.replace (fun block => pure block.source) = (pure layout.source : m Text) := by
  obtain ⟨parts, tail⟩ := layout
  rw [replace]
  induction parts with
  | nil => rfl
  | cons part parts ih =>
      obtain ⟨gap, block⟩ := part
      simp [weave, ih, source]

theorem raw_of_mem {kind : BlockKind} {text : Text} {tag : PlacedTag}
    (member : tag ∈ among 0 (kind.marks.pieces text)) :
    (tag.mark = .closes → tag.raw = kind.closingTag) ∧
      (tag.mark = .separates → tag.raw = Tag.elseTag) := by
  obtain ⟨_, _, read⟩ := kind.marks.exists_read_of_mem_pieces (exists_piece_of_mem member)
  exact BlockKind.raw_of_read read

/-- What the block of a pair is spelled with. -/
theorem source_block {kind : BlockKind} {text : Text} {pair : TagPair} {pairs : List TagPair}
    (opener : pair.opener ∈ among 0 (kind.marks.pieces text))
    (closer : pair.closer ∈ among 0 (kind.marks.pieces text))
    (closes : pair.closer.mark = .closes) :
    let block := pair.block text (divider? (among 0 (kind.marks.pieces text)) pairs pair)
    block.source = pair.opener.raw ++ block.body
      ++ (block.alternative?.map (Tag.elseTag ++ ·)).getD [] ++ kind.closingTag := by
  have sliced : ∀ tag ∈ among 0 (kind.marks.pieces text),
      text.extract tag.start tag.stop = tag.raw := fun tag member =>
    extract_of_mem [] (Matcher.flatMap_source_pieces kind.marks text).symm member
  have closing : text.extract pair.closer.start pair.closer.stop = kind.closingTag :=
    (sliced _ closer).trans ((raw_of_mem closer).1 closes)
  intro block
  cases divider : divider? (among 0 (kind.marks.pieces text)) pairs pair with
  | none =>
      simp only [block, divider, TagPair.block, Block.source, Block.content,
        Block.alternative?, sliced _ opener, closing, Option.map_none, Option.getD_none,
        List.append_nil, List.append_assoc]
  | some tag =>
      have found := List.find?_some divider
      have member := List.mem_of_find?_eq_some divider
      simp only [Bool.and_eq_true, decide_eq_true_eq] at found
      have separator : text.extract tag.start tag.stop = Tag.elseTag :=
        (sliced tag member).trans ((raw_of_mem member).2 found.1.1)
      simp only [block, divider, TagPair.block, Block.source, Block.content,
        Block.alternative?, sliced _ opener, closing, separator, Option.map_some, Option.getD_some,
        List.append_assoc]

/-- The blocks of a text are the outermost pairs of its tags, in their order,
divided at the first separator in no pair inside them. -/
theorem located_ofText_eq_pairedBlocks (kind : BlockKind) (text : Text) :
    let tags := PlacedTag.among 0 (kind.marks.pieces text)
    let layout := ofText kind.marks text
    let blocks := located 0 layout.parts
    blocks = pairedBlocks text tags ∧
      blocks.Pairwise (fun found later => found.2.1 ≤ later.1) ∧
      (∀ first past block, (first, past, block) ∈ blocks →
        ∃ opener ∈ tags, opener.start = first ∧ opener.mark = .opens block.header ∧
          text.extract first past = opener.raw ++ block.body
            ++ (block.alternative?.map (Tag.elseTag ++ ·)).getD [] ++ kind.closingTag) ∧
      Id.run (layout.replace fun block => pure block.source) = text := by
  intro tags layout blocks
  have paired : blocks = pairedBlocks text tags :=
    located_ofPieces (Matcher.solid_pieces kind.marks text) []
      (Matcher.flatMap_source_pieces kind.marks text).symm
  refine ⟨paired, pairwise_located 0 layout.parts, ?_, ?_⟩
  · intro first past block member
    have slice : text.extract first past = block.source :=
      extract_of_mem_located [] (source_ofText kind.marks text).symm member
    rw [paired] at member
    obtain ⟨pair, outer, same⟩ := List.mem_map.mp member
    obtain ⟨rfl, rfl, rfl⟩ := same
    have found := (List.mem_filter.mp outer).1
    obtain ⟨opens, closes⟩ := marks_of_mem_pairsOf found
    obtain ⟨opener, closer⟩ := mem_of_mem_pairs found
    have opener := opener.resolve_left List.not_mem_nil
    refine ⟨pair.opener, opener, rfl, opens, ?_⟩
    rw [slice]
    exact source_block opener closer closes
  · rw [replace_source, source_ofText]
    rfl

/-- Two blocks.  The pair inside the first one is no block of its own, and its separator
does not divide the block around it. -/
example :
    let text := "{{if a}}{{if b}}x{{else}}y{{endif}}{{else}}z{{endif}}, {{if c}}{{endif}}".toList
    let blocks := pairedBlocks text (PlacedTag.among 0 (BlockKind.conditional.marks.pieces text))
    located 0 (ofText BlockKind.conditional.marks text).parts = blocks ∧
      blocks.map (fun found => (found.1, found.2.1, found.2.2.body, found.2.2.alternative?)) =
        [(0, 53, "{{if b}}x{{else}}y{{endif}}".toList, some ['z']), (55, 72, [], none)] := by
  decide +kernel

end Layout

end Stencil
