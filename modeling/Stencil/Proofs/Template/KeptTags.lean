import Stencil.Proofs.Template.Markup
import Stencil.Proofs.Template.PairedBlocks
import Stencil.Proofs.Template.Passes
import Stencil.Proofs.Text.Split

/-!
# Block tags under interpolation

Interpolation reads a text with a matcher of its own, but wherever a block tag
without braces inside is found, that matcher finds the same tag, and what stands
before and behind it is filled in as if it stood alone.  The tag itself is kept,
since its expression is reserved.  There is one exception: the opening tag of an
`if` block without a condition.  Nothing is left of the blank characters that tell
it from an expression, so that it is filled in as the name `if`.
-/

namespace Stencil

namespace Tag

theorem read_expressionTag_append_opening {text : Text} (nonempty : text ≠ []) (more : Text) :
    expressionTag.read (text ++ (opening ++ more)) =
      (expressionTag.read text).map
        fun (raw, token, rest) => (raw, token, rest ++ (opening ++ more)) := by
  -- No part of the closing braces begins with an opening one.
  have unclosed : ∀ front, Text.after? closing (front ++ (opening ++ more)) =
      (Text.after? closing front).map (· ++ (opening ++ more)) := by
    intro front
    rcases Text.after?_append_cases closing front (opening ++ more) with
      ⟨rest, here, there⟩ | ⟨here, there⟩
    · rw [here, there]
      rfl
    · rw [here]
      cases found : Text.after? closing (front ++ (opening ++ more)) with
      | none => rfl
      | some rest =>
          obtain ⟨missing, lacks, whole, begins⟩ := there rest found
          cases missing with
          | nil => exact absurd rfl lacks
          | cons char missing =>
              injection begins with same
              have member : char ∈ closing := by rw [whole]; simp
              exact absurd (same ▸ member) (by decide)
  simp only [expressionTag, Option.bind_eq_bind]
  rcases Text.after?_append_cases opening text (opening ++ more) with
    ⟨body, here, there⟩ | ⟨here, there⟩
  · rw [here, there, Option.bind_some, Option.bind_some]
    rcases Text.dropWhile_append_cases isInner body (opening ++ more) with
      ⟨inner, longer⟩ | ⟨same, longer⟩
    · have stops : (opening ++ more).dropWhile isInner = opening ++ more := rfl
      have none : Text.after? closing (opening ++ more) = none := rfl
      rw [inner, longer, stops, none]
      simp [closing, Text.after?]
    · rw [same, longer, unclosed]
      cases (body.takeWhile isInner).isEmpty with
      | true => rfl
      | false => cases Text.after? closing (body.dropWhile isInner) <;> rfl
  · rw [here]
    cases found : Text.after? opening (text ++ (opening ++ more)) with
    | none => rfl
    | some rest =>
        obtain ⟨missing, lacks, whole, begins⟩ := there rest found
        -- One brace before two others opens nothing, as a brace would stand inside.
        have last : missing = ['\x7b'] := by
          cases text with
          | nil => exact absurd rfl nonempty
          | cons char text =>
              injection whole with _ tail
              rcases List.append_eq_singleton_iff.mp tail.symm with ⟨_, single⟩ | ⟨_, none⟩
              · exact single
              · exact absurd none lacks
        subst last
        have behind : rest = '\x7b' :: more := by simpa [opening] using begins.symm
        rw [behind]
        rfl

/-- A tag is an expression wherever it stands: what is before it and behind it is
read as if it stood alone. -/
theorem pieces_expressionTag_append {interior : Text} (free : Text.isBraceFree interior = true)
    (nonempty : interior ≠ []) (before after : Text) :
    expressionTag.pieces (before ++ (tagged interior ++ after)) =
      expressionTag.pieces before ++
        .token (tagged interior) (expression interior) :: expressionTag.pieces after := by
  have opened : tagged interior ++ after = opening ++ (interior ++ closing ++ after) := by
    simp [tagged]
  rw [← pieces_expressionTag_tagged free nonempty, opened]
  exact Matcher.pieces_append fun rest _ more => read_expressionTag_append_opening more _

theorem expression_of_trim {interior : Text} (nonempty : Text.trim interior ≠ []) :
    expression interior = Text.trim interior := by
  rw [expression]
  exact if_neg nonempty

theorem trim_word_append {word after : Text} (nonempty : word ≠ [])
    (solid : word.all (!Text.isBlank ·) = true)
    (blank : ∀ char ∈ after, Text.isBlank char = true) : Text.trim (word ++ after) = word := by
  have each : ∀ char ∈ word, Text.isBlank char = false := by
    simpa using solid
  have none : ∀ char ∈ ([] : Text), Text.isBlank char = true := nofun
  exact Text.trim_between nonempty (fun char first => each char (List.mem_of_mem_head? first))
    (fun char last => each char (List.mem_of_mem_getLast? last)) none blank

/-- The inside of a tag of `if` blocks is reserved, unless it has no condition. -/
theorem expression_ifMark {interior : Text} {mark : Mark} (free : Text.isBraceFree interior = true)
    (marked : ifMark? interior = some mark) :
    if mark = .opens [] then expression interior = ifWord
    else Interpolation.isReserved (expression interior) = true := by
  rcases ifMark?_cases marked with rfl | rfl | ⟨blank, rest, rfl, isBlank, rfl⟩
  · cases marked
    decide
  · cases marked
    decide
  · by_cases nothing : Text.trimLeft rest = []
    · rw [if_pos (congrArg Mark.opens nothing)]
      have blanks : ∀ char ∈ blank :: rest, Text.isBlank char = true :=
        List.forall_mem_cons.mpr ⟨isBlank, List.dropWhile_eq_nil_iff.mp nothing⟩
      have bare : Text.trim ('i' :: 'f' :: blank :: rest) = ifWord := by
        show Text.trim (ifWord ++ blank :: rest) = ifWord
        exact trim_word_append (by decide) (by decide) blanks
      exact (expression_of_trim (by rw [bare]; decide)).trans bare
    · rw [if_neg fun same => nothing (Mark.opens.inj same)]
      exact IfTag.isReserved ⟨_, _, free, marked, nothing⟩

/-- The inside of a tag of `foreach` blocks is reserved. -/
theorem isReserved_foreachMark {interior : Text} {mark : Mark}
    (marked : foreachMark? interior = some mark) :
    Interpolation.isReserved (expression interior) = true := by
  unfold foreachMark? at marked
  split at marked
  · next closes =>
      rw [closes]
      decide
  · obtain ⟨header, after, _⟩ := Option.map_eq_some_iff.mp marked
    rw [Text.after?_eq_some_iff] at after
    -- Trimming does not reach the beginning of the tag, whatever the header.
    have starts : ∃ more, Text.trim interior = foreachWord ++ more := by
      cases solid : header.any (!Text.isBlank ·) with
      | true =>
          have left : Text.trimLeft interior = interior :=
            Text.dropWhile_eq_self (by rw [after]; intro char first; cases first; decide)
          refine ⟨Text.trimRight header, ?_⟩
          rw [Text.trim, left, after, Text.trimRight_append solid]
      | false =>
          have blanks : ∀ char ∈ header, Text.isBlank char = true := by simpa using solid
          refine ⟨[], ?_⟩
          rw [after, List.append_nil]
          exact trim_word_append (by decide) (by decide) blanks
    obtain ⟨more, trimmed⟩ := starts
    rw [expression_of_trim (by rw [trimmed]; exact List.cons_ne_nil _ _), trimmed]
    simp [Interpolation.isReserved, Interpolation.blockHeads, Text.startsWith, foreachWord,
      Text.after?]

/-- The inside of a block tag is reserved, unless it is that of an `if` tag
without a condition, whose expression is the name `if`. -/
theorem expression_blockTag {kind : BlockKind} {interior rest : Text} {mark : Mark}
    (free : Text.isBraceFree interior = true)
    (read : kind.marks.read (tagged interior ++ rest) = some (tagged interior, mark, rest)) :
    interior ≠ [] ∧
      if kind = .conditional ∧ mark = .opens [] then expression interior = ifWord
      else Interpolation.isReserved (expression interior) = true := by
  cases kind with
  | conditional =>
      have marked : ifMark? interior = some mark := by
        have found := (read_ifMarks_tagged free rest).symm.trans read
        obtain ⟨_, marked, same⟩ := Option.map_eq_some_iff.mp found
        cases same
        exact marked
      have expressed := expression_ifMark free marked
      refine ⟨?_, by simpa using expressed⟩
      rintro rfl
      exact absurd marked (by simp [ifMark?, endifWord, elseWord, ifWord, Text.after?])
  | loop =>
      have marked : foreachMark? interior = some mark := by
        have found := (read_foreachMarks_tagged free rest).symm.trans read
        obtain ⟨_, marked, same⟩ := Option.map_eq_some_iff.mp found
        cases same
        exact marked
      refine ⟨?_, by simpa using isReserved_foreachMark marked⟩
      rintro rfl
      exact absurd marked (by simp [foreachMark?, endforeachWord, foreachWord, Text.after?])

end Tag

namespace Block

/-- What closes and what divides a block are tags among the pieces behind its
opening tag. -/
theorem tokens_of_inside? {depth : Nat} {pieces : List (Piece Tag.Mark)} {inside : Inside}
    (found : inside? depth pieces = some inside) :
    .token inside.closer .closes ∈ pieces ∧
      ∀ separator rest, inside.division = some (separator, rest) →
        .token separator .separates ∈ pieces := by
  fun_induction inside? depth pieces generalizing inside with
  | case1 => exact absurd found (by simp)
  | case4 =>
      cases found
      exact ⟨List.mem_cons_self, fun _ _ divided => absurd divided (by simp)⟩
  | case2 _ _ _ ih | case3 _ _ _ _ ih | case5 _ _ _ ih | case7 _ _ _ ih =>
      obtain ⟨inner, here, rfl⟩ := Option.map_eq_some_iff.mp found
      obtain ⟨closer, divider⟩ := ih here
      exact ⟨List.mem_cons_of_mem _ closer,
        fun separator rest divided => List.mem_cons_of_mem _ (divider separator rest divided)⟩
  | case6 _ _ ih =>
      obtain ⟨inner, here, rfl⟩ := Option.map_eq_some_iff.mp found
      refine ⟨List.mem_cons_of_mem _ (ih here).1, fun separator rest divided => ?_⟩
      cases divided
      exact List.mem_cons_self

/-- Whether the tags of a block are among pieces. -/
structure TagsAmong (block : Block) (pieces : List (Piece Tag.Mark)) : Prop where
  opener : .token block.opener (.opens block.header) ∈ pieces
  closer : .token block.closer .closes ∈ pieces
  divider : ∀ separator rest, block.division = some (separator, rest) →
    .token separator .separates ∈ pieces

theorem TagsAmong.mono {block : Block} {fewer pieces : List (Piece Tag.Mark)}
    (among : block.TagsAmong fewer) (subset : fewer ⊆ pieces) : block.TagsAmong pieces :=
  ⟨subset among.opener, subset among.closer,
    fun separator rest divided => subset (among.divider separator rest divided)⟩

end Block

namespace Layout

theorem tagsAmong_of_mem_blocks {pieces : List (Piece Tag.Mark)} {block : Block}
    (member : block ∈ (ofPieces pieces).blocks) : block.TagsAmong pieces := by
  fun_induction ofPieces pieces with
  | case1 => exact absurd member List.not_mem_nil
  | case2 raw header pieces inside found later ih =>
      rcases List.mem_cons.mp member with rfl | behind
      · obtain ⟨closer, divider⟩ := Block.tokens_of_inside? found
        exact ⟨List.mem_cons_self, List.mem_cons_of_mem _ closer,
          fun separator rest divided => List.mem_cons_of_mem _ (divider separator rest divided)⟩
      · have rest := (Block.rest_suffix_of_inside? found).subset
        exact (ih behind).mono (List.Subset.trans rest (List.subset_cons_self _ pieces))
  | case3 raw header pieces unclosed ih =>
      rw [blocks_push] at member
      exact (ih member).mono (List.subset_cons_self _ pieces)
  | case4 piece pieces plain ih =>
      rw [blocks_push] at member
      exact (ih member).mono (List.subset_cons_self piece pieces)

end Layout

namespace Interpolation

variable {interpolation : Interpolation} {context : Entries}

/-- What becomes of the tag of the name `if`. -/
def fillIf (interpolation : Interpolation) (context : Entries) (raw : Text) : Logged Text :=
  match Entries.resolve Tag.ifWord context with
  | .undefined => interpolation.fillUndefined raw Tag.ifWord
  | value => Logged.lift value.display

theorem fill_if (raw : Text) :
    interpolation.fill context raw Tag.ifWord = interpolation.fillIf context raw := by
  have unreserved : isReserved Tag.ifWord = false := by decide
  have head : split Tag.ifWord = (Tag.ifWord, []) := by decide
  have noCall : Helper.Call.ofText? Tag.ifWord = none := by decide
  have finished : ∀ value, interpolation.finish [] value = Logged.lift value.display :=
    fun value => pure_bind value _
  rw [fill, fillIf, unreserved, head]
  cases resolved : Entries.resolve Tag.ifWord context <;>
    simp only [Bool.false_eq_true, if_false, noCall, resolved, finished]

/-- What stands before and behind a tag is filled in as if it stood alone. -/
theorem pass_append_tagged {interior : Text} (free : Text.isBraceFree interior = true)
    (nonempty : interior ≠ []) (before after : Text) :
    interpolation.pass context (before ++ (Tag.tagged interior ++ after)) = do
      let front ← interpolation.pass context before
      let tag ← interpolation.fill context (Tag.tagged interior) (Tag.expression interior)
      let back ← interpolation.pass context after
      return front ++ (tag ++ back) := by
  rw [pass, Tag.pieces_expressionTag_append free nonempty, Logged.concat_append, Logged.concat,
    pass, pass]
  simp only [fillPiece, bind_assoc, pure_bind]

/-- What becomes of a block tag: it is kept, but for an `if` tag without a
condition. -/
def fillBlockTag (interpolation : Interpolation) (context : Entries) (kind : BlockKind)
    (mark : Tag.Mark) (raw : Text) : Logged Text :=
  if kind = .conditional ∧ mark = .opens [] then interpolation.fillIf context raw
  else return raw

/-- What stands before and behind a block tag is filled in as if it stood alone. -/
theorem pass_append_blockTag {kind : BlockKind} {interior rest : Text} {mark : Tag.Mark}
    (free : Text.isBraceFree interior = true)
    (read : kind.marks.read (Tag.tagged interior ++ rest) =
      some (Tag.tagged interior, mark, rest)) (before after : Text) :
    interpolation.pass context (before ++ (Tag.tagged interior ++ after)) = do
      let front ← interpolation.pass context before
      let tag ← interpolation.fillBlockTag context kind mark (Tag.tagged interior)
      let back ← interpolation.pass context after
      return front ++ (tag ++ back) := by
  obtain ⟨nonempty, expressed⟩ := Tag.expression_blockTag free read
  have filled : interpolation.fill context (Tag.tagged interior) (Tag.expression interior) =
      interpolation.fillBlockTag context kind mark (Tag.tagged interior) := by
    split at expressed
    · next blank => rw [fillBlockTag, if_pos blank, expressed, fill_if]
    · next kept => rw [fillBlockTag, if_neg kept, fill, if_pos expressed]
  rw [pass_append_tagged free nonempty, filled]

/-- What the content of a block becomes: its separator stays between what is made
of its two parts. -/
def passContent (interpolation : Interpolation) (context : Entries) (block : Block) :
    Logged Text :=
  match block.division with
  | none => interpolation.pass context block.body
  | some (separator, alternative) => do
      let body ← interpolation.pass context block.body
      let other ← interpolation.pass context alternative
      return body ++ (separator ++ other)

theorem pass_nil : interpolation.pass context [] = pure [] := by
  rw [pass, Matcher.pieces]
  rfl

theorem pass_append_spelled {kind : BlockKind} {raw rest : Text} {mark : Tag.Mark}
    (read : kind.marks.read (raw ++ rest) = some (raw, mark, rest))
    (spelled : mark = .closes ∨ mark = .separates) (before after : Text) :
    interpolation.pass context (before ++ (raw ++ after)) = do
      let front ← interpolation.pass context before
      let back ← interpolation.pass context after
      return front ++ (raw ++ back) := by
  obtain ⟨interior, rfl, free⟩ :
      ∃ interior, raw = Tag.tagged interior ∧ Text.isBraceFree interior = true := by
    obtain ⟨closes, separates⟩ := BlockKind.raw_of_read read
    rcases spelled with closing | separating
    · rw [closes closing]
      cases kind with
      | conditional => exact ⟨Tag.endifWord, rfl, by decide⟩
      | loop => exact ⟨Tag.endforeachWord, rfl, by decide⟩
    · rw [separates separating]
      exact ⟨Tag.elseWord, rfl, by decide⟩
  have kept : interpolation.fillBlockTag context kind mark (Tag.tagged interior) =
      pure (Tag.tagged interior) := by
    apply if_neg
    rcases spelled with rfl | rfl <;> simp
  rw [pass_append_blockTag free read, kept]
  simp only [pure_bind]

theorem pass_content {kind : BlockKind} {block : Block}
    (divider : ∀ separator alternative, block.division = some (separator, alternative) →
      ∃ rest, kind.marks.read (separator ++ rest) = some (separator, .separates, rest)) :
    interpolation.pass context (Block.content block.body block.division) =
      interpolation.passContent context block := by
  obtain ⟨opener, header, body, division, closer⟩ := block
  cases division with
  | none =>
      show interpolation.pass context (body ++ []) = interpolation.pass context body
      rw [List.append_nil]
  | some division =>
      obtain ⟨separator, alternative⟩ := division
      obtain ⟨rest, separates⟩ := divider separator alternative rfl
      exact pass_append_spelled separates (.inr rfl) body alternative

/-- A block tag without braces inside is kept by the interpolation of any text in
which it is found, and the text around it is filled in as if it stood alone; so the
interpolation of a block keeps its tags.  The opening tag of an `if` block without
a condition is no such tag: it is filled in as the name `if`. -/
theorem pass_blockTags (kind : BlockKind) (interpolation : Interpolation) (context : Entries)
    (template : Text) :
    (∀ front interior mark back,
        kind.marks.pieces template = front ++ .token (Tag.tagged interior) mark :: back →
        Text.isBraceFree interior = true →
        interpolation.pass context template = do
          let before ← interpolation.pass context (front.flatMap Piece.source)
          let tag ← interpolation.fillBlockTag context kind mark (Tag.tagged interior)
          let after ← interpolation.pass context (back.flatMap Piece.source)
          return before ++ (tag ++ after)) ∧
      ∀ block ∈ (Layout.ofText kind.marks template).blocks, ∀ interior,
        block.opener = Tag.tagged interior → Text.isBraceFree interior = true →
        interpolation.pass context block.source = do
          let opener ← interpolation.fillBlockTag context kind (.opens block.header) block.opener
          let content ← interpolation.passContent context block
          return opener ++ (content ++ block.closer) := by
  have readable : ∀ {raw mark}, .token raw mark ∈ kind.marks.pieces template →
      ∃ rest, kind.marks.read (raw ++ rest) = some (raw, mark, rest) := by
    intro raw mark member
    obtain ⟨there, rest, read⟩ := kind.marks.exists_read_of_mem_pieces member
    exact ⟨rest, by rwa [← (kind.marks.sound read).2]⟩
  constructor
  · intro front interior mark back pieces free
    have member : .token (Tag.tagged interior) mark ∈ kind.marks.pieces template := by
      rw [pieces]
      exact List.mem_append_right front List.mem_cons_self
    obtain ⟨rest, read⟩ := readable member
    have whole : template = front.flatMap Piece.source ++
        (Tag.tagged interior ++ back.flatMap Piece.source) := by
      rw [← kind.marks.flatMap_source_pieces template, pieces]
      simp [Piece.source]
    rw [whole]
    exact pass_append_blockTag free read _ _
  · intro block member interior opened free
    have among := Layout.tagsAmong_of_mem_blocks member
    obtain ⟨rest, opens⟩ := readable among.opener
    obtain ⟨last, closes⟩ := readable among.closer
    have content : interpolation.pass context (Block.content block.body block.division) =
        interpolation.passContent context block :=
      pass_content fun separator alternative divided =>
        readable (among.divider separator alternative divided)
    have source : block.source = [] ++ (block.opener ++
        (Block.content block.body block.division ++ (block.closer ++ []))) := by
      simp [Block.source]
    rw [opened] at opens source
    rw [source, pass_append_blockTag free opens, pass_append_spelled closes (.inl rfl), content,
      pass_nil, opened]
    simp only [pure_bind, bind_assoc, List.nil_append, List.append_nil]

/-- The opening tag of a block without a condition is lost to a name that is spelled
like it. -/
theorem pass_blankIf :
    let interpolation : Interpolation :=
      ⟨Filter.builtin, Helper.builtin, .silent, .silent, true, true⟩
    let context : Entries := [(.text Tag.ifWord, .text ['X'])]
    (interpolation.pass context "{{if }}A{{endif}}".toList).outcome =
      .ok "XA{{endif}}".toList := by
  intro interpolation context
  have opener : Tag.ifMarks.read "{{if }}A{{endif}}".toList =
      some (Tag.tagged ['i', 'f', ' '], .opens [], 'A' :: Tag.endifTag) := by decide
  have between : Tag.ifMarks.read ('A' :: Tag.endifTag) = none := by decide
  have closer : Tag.ifMarks.read Tag.endifTag = some (Tag.endifTag, .closes, []) := by decide
  have pieces : Tag.ifMarks.pieces "{{if }}A{{endif}}".toList =
      [] ++ .token (Tag.tagged ['i', 'f', ' ']) (.opens []) ::
        [.plain 'A', .token Tag.endifTag .closes] := by
    rw [Matcher.pieces_of_read_some opener, Matcher.pieces_of_read_none between,
      Matcher.pieces_of_read_some closer, Matcher.pieces]
    rfl
  rw [(pass_blockTags .conditional interpolation context _).1 [] ['i', 'f', ' '] (.opens []) _
    pieces (by decide)]
  decide +kernel

end Interpolation

end Stencil
