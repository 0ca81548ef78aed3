import Mathlib.Data.List.TakeWhile
import Stencil.Proofs.Text.Words
import Stencil.Template.Interpolation

/-!
# Tags with an inside

Every tag is two braces, an inside without braces, and two braces.  What a
matcher finds at such a tag depends on its inside alone, and a matcher whose
tokens begin with two braces finds nothing in an inert text.  So the pieces of
a text that is made of inert texts and tags are those of its parts.
-/

namespace Stencil

namespace Matcher

/-- Whether every token of a matcher begins with two opening braces. -/
def StartsOpen (matcher : Matcher α) : Prop :=
  ∀ text, Text.after? Tag.opening text = none → matcher.read text = none

theorem pieces_of_read_none {matcher : Matcher α} {char : Char} {text : Text}
    (none : matcher.read (char :: text) = none) :
    matcher.pieces (char :: text) = .plain char :: matcher.pieces text := by
  rw [pieces]
  split
  · next found => rw [none] at found; exact absurd found (by simp)
  · rfl

theorem pieces_of_read_some {matcher : Matcher α} {text raw rest : Text} {token : α}
    (found : matcher.read text = some (raw, token, rest)) :
    matcher.pieces text = .token raw token :: matcher.pieces rest := by
  cases text with
  | nil =>
      obtain ⟨nonempty, empty⟩ := matcher.sound found
      cases raw with
      | nil => exact absurd rfl nonempty
      | cons char raw => simp at empty
  | cons char text =>
      rw [pieces]
      split
      · next here =>
          rw [found] at here
          cases here
          rfl
      · next none => rw [none] at found; exact absurd found (by simp)

theorem pieces_inert_append {matcher : Matcher α} (opens : matcher.StartsOpen) {text : Text}
    (inert : Text.isInert text = true) (rest : Text) :
    matcher.pieces (text ++ rest) = text.map .plain ++ matcher.pieces rest := by
  induction text with
  | nil => rfl
  | cons char text ih =>
      have none := opens _ (Text.after?_opening_of_isInert inert rest)
      have later : Text.isInert text = true := by
        simp only [Text.isInert, Bool.and_eq_true] at inert
        exact inert.2
      rw [List.cons_append] at none ⊢
      rw [pieces_of_read_none none, ih later]
      rfl

theorem exists_read_of_mem_pieces (matcher : Matcher α) {text raw : Text} {token : α}
    (member : .token raw token ∈ matcher.pieces text) :
    ∃ there rest, matcher.read there = some (raw, token, rest) := by
  fun_induction pieces matcher text with
  | case1 => exact absurd member List.not_mem_nil
  | case2 char text _ _ rest read ih =>
      rcases List.mem_cons.mp member with same | later
      · cases same
        exact ⟨_, rest, read⟩
      · exact ih later
  | case3 char text none ih =>
      rcases List.mem_cons.mp member with same | later
      · exact absurd same (by simp)
      · exact ih later

/-- The tokens of a text are found as they are without what follows it, if every
token that begins in the text is. -/
theorem pieces_append {matcher : Matcher α} {text tail : Text}
    (reads : ∀ rest, rest <:+ text → rest ≠ [] → matcher.read (rest ++ tail) =
      (matcher.read rest).map fun (raw, token, more) => (raw, token, more ++ tail)) :
    matcher.pieces (text ++ tail) = matcher.pieces text ++ matcher.pieces tail := by
  fun_induction pieces matcher text with
  | case1 => rfl
  | case2 char text raw token rest read ih =>
      have found := reads _ (List.suffix_refl _) (List.cons_ne_nil char text)
      rw [read] at found
      have behind : rest <:+ char :: text := ⟨raw, (matcher.sound read).2.symm⟩
      rw [pieces_of_read_some found, ih fun part suffix => reads part (suffix.trans behind)]
      rfl
  | case3 char text read ih =>
      have none := reads _ (List.suffix_refl _) (List.cons_ne_nil char text)
      rw [read] at none
      have behind : text <:+ char :: text := List.suffix_cons char text
      rw [List.cons_append] at none ⊢
      rw [pieces_of_read_none none, ih fun part suffix => reads part (suffix.trans behind)]
      rfl

/-- A text has tokens exactly if one is read somewhere in it. -/
theorem tokens_ne_nil_iff (matcher : Matcher α) (text : Text) :
    matcher.tokens text ≠ [] ↔
      ∃ before rest, text = before ++ rest ∧ (matcher.read rest).isSome = true := by
  rw [tokens]
  fun_induction pieces matcher text with
  | case1 =>
      refine ⟨fun some => absurd rfl some, ?_⟩
      rintro ⟨before, rest, whole, reads⟩
      obtain ⟨_, rfl⟩ := List.append_eq_nil_iff.mp whole.symm
      obtain ⟨⟨raw, token, later⟩, read⟩ := Option.isSome_iff_exists.mp reads
      obtain ⟨nonempty, split⟩ := matcher.sound read
      exact absurd (List.append_eq_nil_iff.mp split.symm).1 nonempty
  | case2 char text raw token rest read _ =>
      refine ⟨fun _ => ⟨[], char :: text, rfl, by rw [read]; rfl⟩, fun _ => ?_⟩
      simp [Piece.token?]
  | case3 char text none ih =>
      rw [List.filterMap_cons_none rfl, ih]
      constructor
      · rintro ⟨before, rest, rfl, reads⟩
        exact ⟨char :: before, rest, rfl, reads⟩
      · rintro ⟨before, rest, whole, reads⟩
        cases before with
        | nil =>
            rw [List.nil_append] at whole
            rw [← whole, none] at reads
            exact absurd reads (by simp)
        | cons first before =>
            injection whole with _ whole
            exact ⟨before, rest, whole, reads⟩

theorem startsOpen_literal {word : Text} (nonempty : Tag.opening ++ word ≠ []) (token : α) :
    (literal (Tag.opening ++ word) nonempty token).StartsOpen := by
  intro text none
  simp [literal, Text.after?_append, none]

theorem startsOpen_orElse {first second : Matcher α} (left : first.StartsOpen)
    (right : second.StartsOpen) : (first.orElse second).StartsOpen := by
  intro text none
  simp [orElse, left text none, right text none]

end Matcher

namespace Tag

def tagged (interior : Text) : Text :=
  opening ++ interior ++ closing

theorem after?_opening_tagged (interior rest : Text) :
    Text.after? opening (tagged interior ++ rest) = some (interior ++ closing ++ rest) :=
  Text.after?_eq_some_iff.mpr (by simp [tagged])

/-- Behind its first brace a tag is an inert text. -/
theorem isInert_tail_tagged {interior : Text} (free : Text.isBraceFree interior = true) :
    Text.isInert ('\x7b' :: (interior ++ closing)) = true := by
  have inside : Text.isInert (interior ++ closing) = true :=
    Text.isInert_append (Text.isInert_of_isBraceFree free) (by decide)
  have next : (interior ++ closing).head?.any (· != '\x7b') = true := by
    cases interior with
    | nil => decide
    | cons char interior =>
        rw [Text.isBraceFree_cons, Bool.and_eq_true] at free
        simpa using (Text.isInner_iff.mp free.1).1
  rw [Text.isInert, inside, next]
  rfl

/-- A tag that is no token is read character by character. -/
theorem pieces_tagged_of_read_none {matcher : Matcher α} (opens : matcher.StartsOpen)
    {interior : Text} (free : Text.isBraceFree interior = true) {rest : Text}
    (none : matcher.read (tagged interior ++ rest) = none) :
    matcher.pieces (tagged interior ++ rest) =
      (tagged interior).map .plain ++ matcher.pieces rest := by
  have whole : tagged interior ++ rest =
      '\x7b' :: ('\x7b' :: (interior ++ closing) ++ rest) := by
    simp [tagged, opening]
  rw [whole] at none ⊢
  rw [Matcher.pieces_of_read_none none,
    Matcher.pieces_inert_append opens (isInert_tail_tagged free)]
  simp [tagged, opening]

theorem startsOpen_headed {start : Text} (nonempty : opening ++ start ≠ []) (spaced : Bool)
    (accepts : Text → Bool) : (headed (opening ++ start) nonempty spaced accepts).StartsOpen := by
  intro text none
  simp [headed, Text.after?_append, none]

theorem startsOpen_ofHeader {matcher : Matcher Text} (opens : matcher.StartsOpen) :
    (Mark.ofHeader matcher).StartsOpen := by
  intro text none
  simp [Mark.ofHeader, opens text none]

theorem startsOpen_ifMarks : ifMarks.StartsOpen :=
  Matcher.startsOpen_orElse (startsOpen_ofHeader (startsOpen_headed _ _ _))
    (Matcher.startsOpen_orElse (Matcher.startsOpen_literal endifTag_ne_nil _)
      (Matcher.startsOpen_literal elseTag_ne_nil _))

theorem startsOpen_foreachMarks : foreachMarks.StartsOpen :=
  Matcher.startsOpen_orElse (startsOpen_ofHeader (startsOpen_headed _ _ _))
    (Matcher.startsOpen_literal endforeachTag_ne_nil _)

theorem startsOpen_expressionTag : expressionTag.StartsOpen := by
  intro text none
  simp [expressionTag, none]

theorem startsOpen_placeholder (name : Text) : (placeholder name).StartsOpen := by
  intro text none
  simp [placeholder, none]

/-- A literal tag is found at a tag with the same inside only. -/
theorem read_literal_tagged (word : Text) (wordFree : Text.isBraceFree word = true)
    (nonempty : tagged word ≠ []) (token : α) {interior : Text}
    (free : Text.isBraceFree interior = true) (rest : Text) :
    (Matcher.literal (tagged word) nonempty token).read (tagged interior ++ rest) =
      if interior = word then some (tagged interior, token, rest) else none := by
  have after : Text.after? (tagged word) (tagged interior ++ rest) =
      if interior = word then some rest else none := by
    rw [tagged, List.append_assoc, Text.after?_append, after?_opening_tagged, Option.bind_some,
      Text.after?_append, Text.after?_interior wordFree]
    by_cases same : interior = word
    · subst same
      have whole : Text.after? interior interior = some [] :=
        Text.after?_eq_some_iff.mpr (by simp)
      simp [whole, closing, Text.after?]
    · rw [if_neg same]
      cases found : Text.after? word interior with
      | none => rfl
      | some more =>
          rw [Text.after?_eq_some_iff] at found
          cases more with
          | nil => exact absurd (by simpa using found) same
          | cons char more =>
              have inner : isInner char = true :=
                Text.isInner_of_mem free char (by simp [found])
              have differs := Ne.symm (Text.isInner_iff.mp inner).2
              simp [closing, Text.after?, differs]
  unfold Matcher.literal
  simp only [after]
  by_cases same : interior = word
  · simp [same]
  · simp [same]

def endifWord : Text := ['e', 'n', 'd', 'i', 'f']

def elseWord : Text := ['e', 'l', 's', 'e']

def endforeachWord : Text := ['e', 'n', 'd', 'f', 'o', 'r', 'e', 'a', 'c', 'h']

/-- What the inside of the opening tag of an `if` block begins with. -/
def ifWord : Text := ['i', 'f']

/-- What the inside of the opening tag of a `foreach` block begins with. -/
def foreachWord : Text := ['f', 'o', 'r', 'e', 'a', 'c', 'h', ':']

/-- What the inside of a tag says in the structure of `if` blocks. -/
def ifMark? (interior : Text) : Option Mark :=
  if interior = endifWord then some .closes
  else if interior = elseWord then some .separates
  else match Text.after? ifWord interior with
    | some (char :: rest) =>
        if Text.isBlank char then some (.opens (Text.trimLeft rest)) else none
    | _ => none

theorem ifMark?_cases {interior : Text} {mark : Mark} (marked : ifMark? interior = some mark) :
    interior = endifWord ∨ interior = elseWord ∨
      ∃ blank rest, interior = 'i' :: 'f' :: blank :: rest ∧ Text.isBlank blank = true ∧
        mark = .opens (Text.trimLeft rest) := by
  unfold ifMark? at marked
  split at marked
  · next isEnd => exact .inl isEnd
  · split at marked
    · next isElse => exact .inr (.inl isElse)
    · split at marked
      · next blank rest after =>
          split at marked
          · next isBlank =>
              cases marked
              exact .inr (.inr ⟨blank, rest, Text.after?_eq_some_iff.mp after, isBlank, rfl⟩)
          · exact absurd marked (by simp)
      · exact absurd marked (by simp)

/-- What the inside of a tag says in the structure of `foreach` blocks. -/
def foreachMark? (interior : Text) : Option Mark :=
  if interior = endforeachWord then some .closes
  else (Text.after? foreachWord interior).map .opens

theorem eq_append_of_foreachMark? {interior header : Text}
    (marked : foreachMark? interior = some (.opens header)) :
    interior = foreachWord ++ header := by
  unfold foreachMark? at marked
  split at marked
  · exact absurd marked (by simp)
  · obtain ⟨rest, after, same⟩ := Option.map_eq_some_iff.mp marked
    cases same
    exact Text.after?_eq_some_iff.mp after

theorem isBraceFree_of_after? {word interior rest : Text}
    (free : Text.isBraceFree interior = true) (after : Text.after? word interior = some rest) :
    Text.isBraceFree rest = true := by
  rw [Text.after?_eq_some_iff] at after
  subst after
  rw [Text.isBraceFree_append, Bool.and_eq_true] at free
  exact free.2

theorem read_foreachTag_tagged {interior : Text} (free : Text.isBraceFree interior = true)
    (rest : Text) :
    foreachTag.read (tagged interior ++ rest) =
      (Text.after? foreachWord interior).map
        fun header => (tagged interior, header, rest) := by
  have after : Text.after? foreachOpening (tagged interior ++ rest) =
      (Text.after? foreachWord interior).map
        (· ++ closing ++ rest) := by
    rw [foreachOpening, Text.after?_append, after?_opening_tagged, Option.bind_some,
      Text.after?_interior (by decide)]
    rfl
  unfold foreachTag headed
  simp only [after, Bool.false_and, Bool.false_eq_true, if_false, List.append_nil]
  cases found : Text.after? foreachWord interior with
  | none => rfl
  | some header =>
      have headerFree := isBraceFree_of_after? free found
      rw [Text.after?_eq_some_iff] at found
      simp only [Option.map_some, Option.bind_eq_bind, Option.bind_some]
      rw [Text.cut?_interior headerFree, found]
      simp [tagged, foreachOpening, foreachWord]

theorem read_ifTag_tagged {interior : Text} (free : Text.isBraceFree interior = true)
    (rest : Text) :
    ifTag.read (tagged interior ++ rest) =
      (Text.after? ifWord interior).bind fun header =>
        if (header.takeWhile Text.isBlank).isEmpty then none
        else some (tagged interior, Text.trimLeft header, rest) := by
  have after : Text.after? ifOpening (tagged interior ++ rest) =
      (Text.after? ifWord interior).map (· ++ closing ++ rest) := by
    rw [ifOpening, Text.after?_append, after?_opening_tagged, Option.bind_some,
      Text.after?_interior (by decide)]
    rfl
  have stops : Text.isBlank '\x7d' = false := by decide
  unfold ifTag headed
  simp only [after]
  cases found : Text.after? ifWord interior with
  | none => rfl
  | some header =>
      have headerFree := isBraceFree_of_after? free found
      have trimmedFree : Text.isBraceFree (Text.trimLeft header) = true := by
        rw [← List.takeWhile_append_dropWhile (p := Text.isBlank) (l := header),
          Text.isBraceFree_append, Bool.and_eq_true] at headerFree
        exact headerFree.2
      have whole : ifOpening ++ header.takeWhile Text.isBlank ++ Text.trimLeft header ++ closing =
          tagged interior := by
        rw [Text.after?_eq_some_iff] at found
        rw [found, List.append_assoc ifOpening, Text.trimLeft,
          List.takeWhile_append_dropWhile]
        simp [tagged, ifOpening, ifWord]
      simp only [Option.map_some, Option.bind_eq_bind, Option.bind_some, if_true, Bool.true_and]
      rw [Text.takeWhile_interior stops, Text.dropWhile_interior stops]
      cases blanks : (header.takeWhile Text.isBlank).isEmpty with
      | true => simp
      | false =>
          rw [← Text.trimLeft, Text.cut?_interior trimmedFree]
          simpa using whole

theorem read_foreachMarks_tagged {interior : Text} (free : Text.isBraceFree interior = true)
    (rest : Text) :
    foreachMarks.read (tagged interior ++ rest) =
      (foreachMark? interior).map fun mark => (tagged interior, mark, rest) := by
  have closes : (Matcher.literal endforeachTag _ Mark.closes).read (tagged interior ++ rest) = _ :=
    read_literal_tagged endforeachWord (by decide) endforeachTag_ne_nil Mark.closes free rest
  unfold foreachMarks Matcher.orElse Mark.ofHeader
  simp only [read_foreachTag_tagged free]
  rw [closes]
  unfold foreachMark?
  by_cases isEnd : interior = endforeachWord
  · subst isEnd
    rfl
  · simp only [isEnd, if_false, Option.or_none, Option.map_map]
    rfl

theorem read_ifMarks_tagged {interior : Text} (free : Text.isBraceFree interior = true)
    (rest : Text) :
    ifMarks.read (tagged interior ++ rest) =
      (ifMark? interior).map fun mark => (tagged interior, mark, rest) := by
  have closes : (Matcher.literal endifTag _ Mark.closes).read (tagged interior ++ rest) = _ :=
    read_literal_tagged endifWord (by decide) endifTag_ne_nil Mark.closes free rest
  have separates : (Matcher.literal elseTag _ Mark.separates).read (tagged interior ++ rest) = _ :=
    read_literal_tagged elseWord (by decide) elseTag_ne_nil Mark.separates free rest
  unfold ifMarks Matcher.orElse Mark.ofHeader
  simp only [read_ifTag_tagged free]
  rw [closes, separates]
  unfold ifMark?
  by_cases isEnd : interior = endifWord
  · subst isEnd
    rfl
  · by_cases isElse : interior = elseWord
    · subst isElse
      rfl
    · simp only [isEnd, isElse, if_false, Option.or_none]
      cases Text.after? ifWord interior with
      | none => rfl
      | some header =>
          cases header with
          | nil => rfl
          | cons char header =>
              by_cases blank : Text.isBlank char = true
              · simp [blank, Text.trimLeft]
              · simp [blank]

theorem pieces_ifMarks_tagged {interior : Text} (free : Text.isBraceFree interior = true)
    (rest : Text) :
    ifMarks.pieces (tagged interior ++ rest) =
      match ifMark? interior with
      | some mark => .token (tagged interior) mark :: ifMarks.pieces rest
      | none => (tagged interior).map .plain ++ ifMarks.pieces rest := by
  have read := read_ifMarks_tagged free rest
  cases mark : ifMark? interior with
  | some mark =>
      rw [mark, Option.map_some] at read
      exact Matcher.pieces_of_read_some read
  | none =>
      rw [mark, Option.map_none] at read
      exact pieces_tagged_of_read_none startsOpen_ifMarks free read

theorem pieces_foreachMarks_tagged {interior : Text} (free : Text.isBraceFree interior = true)
    (rest : Text) :
    foreachMarks.pieces (tagged interior ++ rest) =
      match foreachMark? interior with
      | some mark => .token (tagged interior) mark :: foreachMarks.pieces rest
      | none => (tagged interior).map .plain ++ foreachMarks.pieces rest := by
  have read := read_foreachMarks_tagged free rest
  cases mark : foreachMark? interior with
  | some mark =>
      rw [mark, Option.map_some] at read
      exact Matcher.pieces_of_read_some read
  | none =>
      rw [mark, Option.map_none] at read
      exact pieces_tagged_of_read_none startsOpen_foreachMarks free read

theorem pieces_expressionTag_tagged {interior : Text} (free : Text.isBraceFree interior = true)
    (nonempty : interior ≠ []) (rest : Text) :
    expressionTag.pieces (tagged interior ++ rest) =
      .token (tagged interior) (expression interior) :: expressionTag.pieces rest := by
  apply Matcher.pieces_of_read_some
  have stops : isInner '\x7d' = false := by decide
  have all : interior.takeWhile isInner = interior :=
    List.takeWhile_eq_self_iff.mpr (Text.isInner_of_mem free)
  have none : interior.dropWhile isInner = [] :=
    List.dropWhile_eq_nil_iff.mpr (Text.isInner_of_mem free)
  have closed : Text.after? closing (closing ++ rest) = some rest :=
    Text.after?_eq_some_iff.mpr rfl
  unfold expressionTag
  simp only [after?_opening_tagged, Option.bind_eq_bind, Option.bind_some]
  rw [Text.takeWhile_interior stops, Text.dropWhile_interior stops, all, none]
  simp [nonempty, closed, tagged]

theorem mem_take_of_le_takeWhile {accepts : Char → Bool} {text : Text} {count : Nat}
    (short : count ≤ (text.takeWhile accepts).length) :
    ∀ char ∈ text.take count, accepts char = true := by
  intro char member
  have inside : text.take count = (text.takeWhile accepts).take count := by
    conv => lhs; rw [← List.takeWhile_append_dropWhile (p := accepts) (l := text)]
    exact List.take_append_of_le_length short
  rw [inside] at member
  exact List.mem_takeWhile_imp (List.mem_of_mem_take member)

/-- Whether a name with blank characters around it is the inside of a tag. -/
def Pads (name interior : Text) : Prop :=
  ∃ before after, interior = before ++ name ++ after ∧
    (∀ char ∈ before, Text.isBlank char = true) ∧ ∀ char ∈ after, Text.isBlank char = true

theorem isBraceFree_of_pads {name interior : Text} (pads : Pads name interior) :
    Text.isBraceFree interior = Text.isBraceFree name := by
  obtain ⟨before, after, rfl, blankBefore, blankAfter⟩ := pads
  have freeBefore : Text.isBraceFree before = true :=
    Text.isBraceFree_of_forall fun char member =>
      Text.isInner_of_isBlank (blankBefore char member)
  have freeAfter : Text.isBraceFree after = true :=
    Text.isBraceFree_of_forall fun char member =>
      Text.isInner_of_isBlank (blankAfter char member)
  rw [Text.isBraceFree_append, Text.isBraceFree_append, freeBefore, freeAfter, Bool.true_and,
    Bool.and_true]

theorem tagged_append_inj {interior other rest later : Text}
    (free : Text.isBraceFree interior = true) (otherFree : Text.isBraceFree other = true)
    (same : tagged interior ++ rest = tagged other ++ later) : interior = other ∧ rest = later := by
  have inside : interior ++ closing ++ rest = other ++ closing ++ later := by
    simpa [tagged] using same
  have cut := congrArg (Text.cut? closing) inside
  rw [Text.cut?_interior free, Text.cut?_interior otherFree] at cut
  simpa using cut

/-- A placeholder is a tag with the name between blank characters inside. -/
theorem exists_of_read_placeholder {name text raw rest : Text} {token : Unit}
    (read : (placeholder name).read text = some (raw, token, rest)) :
    ∃ interior, Pads name interior ∧ raw = tagged interior ∧ text = tagged interior ++ rest := by
  have whole := ((placeholder name).sound read).2
  simp only [placeholder, Option.bind_eq_bind, Option.bind_eq_some_iff] at read
  obtain ⟨body, _, read⟩ := read
  obtain ⟨blanks, among, found⟩ := List.exists_of_findSome?_eq_some read
  have short : blanks ≤ (body.takeWhile Text.isBlank).length := by
    simp only [List.mem_reverse, List.mem_range] at among
    omega
  simp only [nameAt?, Option.bind_eq_bind, Option.bind_eq_some_iff] at found
  obtain ⟨more, _, _, _, built⟩ := found
  simp only [Option.some.injEq, Prod.mk.injEq] at built
  have written : raw = tagged (body.take blanks ++ name ++ more.takeWhile Text.isBlank) := by
    rw [← built.1]
    simp [tagged]
  refine ⟨_, ⟨body.take blanks, more.takeWhile Text.isBlank, rfl,
    mem_take_of_le_takeWhile short, fun char member => List.mem_takeWhile_imp member⟩, written, ?_⟩
  rw [← written]
  exact whole

/-- A placeholder is found at a tag only if its name stands inside between
blank characters; it is the whole tag then. -/
theorem eq_of_read_placeholder {name interior : Text}
    (nameFree : Text.isBraceFree name = true) (free : Text.isBraceFree interior = true)
    {rest raw later : Text} {token : Unit}
    (read : (placeholder name).read (tagged interior ++ rest) = some (raw, token, later)) :
    Pads name interior ∧ raw = tagged interior ∧ later = rest := by
  obtain ⟨other, pads, rfl, same⟩ := exists_of_read_placeholder read
  have otherFree : Text.isBraceFree other = true := by rw [isBraceFree_of_pads pads, nameFree]
  obtain ⟨rfl, rfl⟩ := tagged_append_inj free otherFree same
  exact ⟨pads, rfl, rfl⟩

theorem read_placeholder_of_pads {name interior : Text}
    (nameFree : Text.isBraceFree name = true) (free : Text.isBraceFree interior = true)
    (pads : Pads name interior) (rest : Text) :
    (placeholder name).read (tagged interior ++ rest) = some (tagged interior, (), rest) := by
  have found : ((placeholder name).read (tagged interior ++ rest)).isSome = true := by
    obtain ⟨before, after, whole, blankBefore, blankAfter⟩ := pads
    have stops : Text.isBlank '\x7d' = false := by decide
    simp only [placeholder, after?_opening_tagged, Option.bind_eq_bind, Option.bind_some]
    rw [Text.takeWhile_interior stops, List.findSome?_isSome_iff]
    refine ⟨before.length, ?_, ?_⟩
    · rw [whole, List.append_assoc, List.takeWhile_append_of_pos blankBefore]
      simp only [List.mem_reverse, List.mem_range, List.length_append]
      omega
    · have dropped : (interior ++ closing ++ rest).drop before.length =
          name ++ (after ++ closing ++ rest) := by
        rw [whole]
        simp
      have noMore : (after ++ closing ++ rest).dropWhile Text.isBlank = closing ++ rest := by
        rw [Text.dropWhile_interior stops, List.dropWhile_eq_nil_iff.mpr blankAfter]
        rfl
      have named : Text.after? name (name ++ (after ++ closing ++ rest)) =
          some (after ++ closing ++ rest) := Text.after?_eq_some_iff.mpr rfl
      have closed : Text.after? closing (closing ++ rest) = some rest :=
        Text.after?_eq_some_iff.mpr rfl
      simp only [nameAt?, dropped, named, Option.bind_eq_bind, Option.bind_some, noMore, closed,
        Option.isSome_some]
  obtain ⟨⟨raw, token, later⟩, read⟩ := Option.isSome_iff_exists.mp found
  obtain ⟨_, rfl, rfl⟩ := eq_of_read_placeholder nameFree free read
  exact read

theorem read_placeholder_of_not_pads {name interior : Text}
    (nameFree : Text.isBraceFree name = true) (free : Text.isBraceFree interior = true)
    (apart : ¬ Pads name interior) (rest : Text) :
    (placeholder name).read (tagged interior ++ rest) = none := by
  cases read : (placeholder name).read (tagged interior ++ rest) with
  | none => rfl
  | some found => exact absurd (eq_of_read_placeholder nameFree free read).1 apart

end Tag

end Stencil
