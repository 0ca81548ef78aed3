import Mathlib.Data.List.Induction
import Stencil.Proofs.Template.Cuts

/-!
# Splitting outside quoted spans

A span opens at a quote outside any span and closes at the next quote of the same kind.
A delimiter lies outside the spans if all those before it are closed, and the parts of a
text are the trimmed stretches between these delimiters, a blank last one left out.  So a
text with closed spans is split by itself, whatever follows behind a delimiter, and its
parts are found again when each is written with a delimiter behind it.
-/

namespace Stencil.Arguments

/-- A text whose quoted spans are all closed. -/
inductive Settled : Text → Prop where
  | nil : Settled []
  | plain {char : Char} {text : Text} :
      isQuote char = false → Settled text → Settled (char :: text)
  | span {quote : Char} {content text : Text} :
      isQuote quote = true → quote ∉ content → Settled text →
      Settled (quote :: (content ++ quote :: text))

/-- The quote of the span that is open behind a character, if any, from that of the span
that is open before it. -/
def after (quote : Option Char) (char : Char) : Option Char :=
  match quote with
  | none => if isQuote char then some char else none
  | some mark => if char = mark then none else some mark

/-- The quote of the span that is open behind a text. -/
def openBehind (quote : Option Char) (text : Text) : Option Char :=
  text.foldl after quote

theorem openBehind_append (quote : Option Char) (first later : Text) :
    openBehind quote (first ++ later) = openBehind (openBehind quote first) later :=
  List.foldl_append

theorem openBehind_content {quote : Char} {content : Text} (absent : quote ∉ content) :
    openBehind (some quote) content = some quote := by
  induction content with
  | nil => rfl
  | cons char content ih =>
      have differs : char ≠ quote := by
        rintro rfl
        exact absent List.mem_cons_self
      have later := ih fun member => absent (List.mem_cons_of_mem char member)
      rw [openBehind, List.foldl_cons, after, if_neg differs]
      exact later

theorem Settled.openBehind_eq {text : Text} (settled : Settled text) :
    openBehind none text = none := by
  induction settled with
  | nil => rfl
  | plain noQuote _ ih =>
      rw [openBehind, List.foldl_cons, after, noQuote]
      exact ih
  | @span quote content text isQuote absent _ ih =>
      rw [openBehind, List.foldl_cons, after, if_pos isQuote]
      change openBehind (some quote) (content ++ quote :: text) = none
      rw [openBehind_append, openBehind_content absent, openBehind, List.foldl_cons, after,
        if_pos rfl]
      exact ih

/-- A text that leaves no span open is settled, and so is what follows the end of a span
that was open before it. -/
theorem settled_of_openBehind (text : Text) :
    (openBehind none text = none → Settled text) ∧
      ∀ quote, openBehind (some quote) text = none →
        ∃ content rest, text = content ++ quote :: rest ∧ quote ∉ content ∧ Settled rest := by
  induction text with
  | nil => exact ⟨fun _ => .nil, fun quote impossible => by cases impossible⟩
  | cons char text ih =>
      obtain ⟨outside, inside⟩ := ih
      constructor
      · intro closed
        cases isQuote : isQuote char with
        | false =>
            rw [openBehind, List.foldl_cons, after, isQuote] at closed
            exact .plain isQuote (outside closed)
        | true =>
            rw [openBehind, List.foldl_cons, after, isQuote] at closed
            obtain ⟨content, rest, rfl, absent, settled⟩ := inside char closed
            exact .span isQuote absent settled
      · intro quote closed
        rw [openBehind, List.foldl_cons, after] at closed
        by_cases same : char = quote
        · rw [if_pos same] at closed
          exact ⟨[], text, by rw [same]; rfl, List.not_mem_nil, outside closed⟩
        · rw [if_neg same] at closed
          obtain ⟨content, rest, rfl, absent, settled⟩ := inside quote closed
          refine ⟨char :: content, rest, rfl, ?_, settled⟩
          intro member
          rcases List.mem_cons.mp member with rfl | later
          · exact same rfl
          · exact absent later

theorem settled_iff {text : Text} : Settled text ↔ openBehind none text = none :=
  ⟨Settled.openBehind_eq, (settled_of_openBehind text).1⟩

instance (text : Text) : Decidable (Settled text) :=
  decidable_of_iff _ settled_iff.symm

/-- The places of the delimiters that lie outside quoted spans, in ascending order. -/
def cuts (delimiter : Char) (raw : Text) : List Nat :=
  (List.range raw.length).filter fun place =>
    raw[place]? = some delimiter ∧ Settled (raw.take place)

/-- The stretches of a text that some places in ascending order leave between them and
behind them, from a place on. -/
def between (raw : Text) (start : Nat) : List Nat → List Text
  | [] => [raw.drop start]
  | cut :: later => (raw.take cut).drop start :: between raw (cut + 1) later

/-- The parts without a blank one at the end. -/
def withoutBlankLast (parts : List Text) : List Text :=
  if parts.getLast? = some [] then parts.dropLast else parts

/-- The stretches that a cut finds, from a place where a span may be open. -/
def pieces (delimiter : Char) (quote : Option Char) (text : Text) : List Text :=
  (stretches [delimiter] quote text).1 :: (stretches [delimiter] quote text).2

/-- The stretches of two texts one behind the other: the last of the first text goes on
in the first of the second. -/
def joinEnds : List Text → List Text → List Text
  | [last], first :: later => (last ++ first) :: later
  | part :: parts, others => part :: joinEnds parts others
  | [], others => others

section Pieces

variable {delimiter : Char} {quote : Option Char}

theorem joinEnds_cons {parts : List Text} (nonempty : parts ≠ []) (part : Text)
    (others : List Text) : joinEnds (part :: parts) others = part :: joinEnds parts others := by
  cases parts with
  | nil => exact absurd rfl nonempty
  | cons next parts => rfl

theorem joinEnds_push (char : Char) (first : Text) (later others : List Text)
    (nonempty : others ≠ []) :
    joinEnds ((char :: first) :: later) others =
      (joinEnds (first :: later) others).modifyHead (char :: ·) := by
  cases later with
  | nil =>
      cases others with
      | nil => exact absurd rfl nonempty
      | cons other others => rfl
  | cons next later => rfl

theorem joinEnds_nil_cons {parts : List Text} (nonempty : parts ≠ []) (others : List Text) :
    joinEnds parts ([] :: others) = parts ++ others := by
  induction parts with
  | nil => exact absurd rfl nonempty
  | cons part parts ih =>
      cases parts with
      | nil => rw [joinEnds, List.append_nil, List.singleton_append]
      | cons next parts =>
          rw [joinEnds_cons (by simp), ih (by simp)]
          rfl

theorem length_joinEnds {parts others : List Text} (nonempty : parts ≠ [])
    (others_nonempty : others ≠ []) :
    (joinEnds parts others).length + 1 = parts.length + others.length := by
  induction parts with
  | nil => exact absurd rfl nonempty
  | cons part parts ih =>
      cases parts with
      | nil =>
          cases others with
          | nil => exact absurd rfl others_nonempty
          | cons first later => simp [joinEnds]; omega
      | cons next parts =>
          have later := ih (by simp)
          rw [joinEnds_cons (by simp), List.length_cons, later, List.length_cons, List.length_cons]
          simp only [List.length_cons]
          omega

theorem pieces_ne_nil (delimiter : Char) (quote : Option Char) (text : Text) :
    pieces delimiter quote text ≠ [] :=
  List.cons_ne_nil _ _

/-- A delimiter outside the spans begins a stretch; any other character is put before
the first one. -/
theorem pieces_cons (noQuote : isQuote delimiter = false) (char : Char) (text : Text) :
    pieces delimiter quote (char :: text) =
      if quote = none ∧ char = delimiter then [] :: pieces delimiter none text
      else (pieces delimiter (after quote char) text).modifyHead (char :: ·) := by
  cases quote with
  | none =>
      by_cases here : char = delimiter
      · subst here
        simp [pieces, stretches, noQuote]
      · cases opens : isQuote char with
        | false => simp [pieces, stretches, opens, here, after, push]
        | true => simp [pieces, stretches, opens, here, after, push]
  | some mark => simp [pieces, stretches, after, push]

theorem pieces_append (noQuote : isQuote delimiter = false) (quote : Option Char)
    (first later : Text) :
    pieces delimiter quote (first ++ later) =
      joinEnds (pieces delimiter quote first)
        (pieces delimiter (openBehind quote first) later) := by
  induction first generalizing quote with
  | nil => rfl
  | cons char first ih =>
      rw [List.cons_append, pieces_cons noQuote, pieces_cons noQuote]
      by_cases cut : quote = none ∧ char = delimiter
      · obtain ⟨rfl, rfl⟩ := cut
        have behind : openBehind none (char :: first) = openBehind none first := by
          rw [openBehind, List.foldl_cons, after, noQuote]
          rfl
        rw [if_pos ⟨rfl, rfl⟩, if_pos ⟨rfl, rfl⟩, behind, ih,
          joinEnds_cons (pieces_ne_nil _ _ first)]
      · rw [if_neg cut, if_neg cut, ih]
        exact (joinEnds_push char _ _ _ (pieces_ne_nil _ _ later)).symm

theorem join_modifyHead (char : Char) (first : Text) (later : List Text) (separator : Text) :
    Text.join separator ((first :: later).modifyHead (char :: ·)) =
      char :: Text.join separator (first :: later) := by
  cases later <;> rfl

theorem join_pieces (noQuote : isQuote delimiter = false) (quote : Option Char) (text : Text) :
    Text.join [delimiter] (pieces delimiter quote text) = text := by
  induction text generalizing quote with
  | nil => rfl
  | cons char text ih =>
      rw [pieces_cons noQuote]
      split
      · next cut =>
          rw [pieces, Text.join, ← pieces, ih, cut.2]
          rfl
      · rw [pieces, join_modifyHead, ← pieces, ih]

theorem pieces_eq_singleton (noQuote : isQuote delimiter = false) {text : Text}
    (uncut : (pieces delimiter quote text).length = 1) : pieces delimiter quote text = [text] := by
  obtain ⟨part, alone⟩ := List.length_eq_one_iff.mp uncut
  have whole := join_pieces noQuote quote text
  rw [alone, Text.join] at whole
  rw [alone, whole]

end Pieces

section Places

variable {delimiter : Char}

theorem cuts_concat (raw : Text) (char : Char) :
    cuts delimiter (raw ++ [char]) =
      cuts delimiter raw ++
        if openBehind none raw = none ∧ char = delimiter then [raw.length] else [] := by
  have front : (List.range raw.length).filter (fun place =>
      (raw ++ [char])[place]? = some delimiter ∧ Settled ((raw ++ [char]).take place)) =
        cuts delimiter raw := by
    apply List.filter_congr
    intro place inside
    have below := List.mem_range.mp inside
    rw [List.getElem?_append_left below, List.take_append_of_le_length (by omega)]
  rw [cuts, List.length_append, List.length_singleton, List.range_succ, List.filter_append, front]
  congr 1
  by_cases cut : openBehind none raw = none ∧ char = delimiter
  · simp [settled_iff, cut]
  · have apart : ¬ (char = delimiter ∧ openBehind none raw = none) := fun same => cut same.symm
    simp [settled_iff, cut, apart]

theorem lt_of_mem_cuts {raw : Text} {cut : Nat} (member : cut ∈ cuts delimiter raw) :
    cut < raw.length :=
  List.mem_range.mp (List.mem_filter.mp member).1

theorem between_ne_nil (raw : Text) (start : Nat) (places : List Nat) :
    between raw start places ≠ [] := by
  cases places <;> exact List.cons_ne_nil _ _

variable {raw : Text} {char : Char}

theorem between_concat {places : List Nat} (inside : ∀ place ∈ places, place < raw.length)
    {start : Nat} (low : start ≤ raw.length) :
    between (raw ++ [char]) start places = joinEnds (between raw start places) [[char]] := by
  induction places generalizing start with
  | nil => rw [between, between, joinEnds, List.drop_append_of_le_length low]
  | cons place places ih =>
      obtain ⟨here, later⟩ := List.forall_mem_cons.mp inside
      rw [between, between, joinEnds_cons (between_ne_nil _ _ _), ih later (by omega),
        List.take_append_of_le_length (by omega)]

/-- A cut at the end begins an empty stretch. -/
theorem between_concat_cut {places : List Nat} (inside : ∀ place ∈ places, place < raw.length)
    (start : Nat) :
    between (raw ++ [char]) start (places ++ [raw.length]) = between raw start places ++ [[]] := by
  induction places generalizing start with
  | nil =>
      rw [List.nil_append, between, between, between, List.take_left,
        List.drop_eq_nil_of_le (show (raw ++ [char]).length ≤ raw.length + 1 by simp)]
      rfl
  | cons place places ih =>
      obtain ⟨here, later⟩ := List.forall_mem_cons.mp inside
      rw [List.cons_append, between, between, ih later, List.take_append_of_le_length (by omega),
        List.cons_append]

/-- What a cut finds are the stretches between the delimiters outside quoted spans. -/
theorem pieces_eq_between (noQuote : isQuote delimiter = false) (raw : Text) :
    pieces delimiter none raw = between raw 0 (cuts delimiter raw) := by
  induction raw using List.reverseRecOn with
  | nil => rfl
  | append_singleton raw char ih =>
      have inside : ∀ place ∈ cuts delimiter raw, place < raw.length := fun _ => lt_of_mem_cuts
      rw [pieces_append noQuote, ih, pieces_cons noQuote, cuts_concat]
      by_cases cut : openBehind none raw = none ∧ char = delimiter
      · rw [if_pos cut, if_pos cut, between_concat_cut inside]
        exact joinEnds_nil_cons (between_ne_nil _ _ _) _
      · rw [if_neg cut, if_neg cut, List.append_nil, between_concat inside (Nat.zero_le _)]
        rfl

end Places

section Parts

variable {delimiter : Char}

theorem withoutBlankLast_append (parts : List Text) {others : List Text} (nonempty : others ≠ []) :
    withoutBlankLast (parts ++ others) = parts ++ withoutBlankLast others := by
  rw [withoutBlankLast, withoutBlankLast, List.getLast?_append_of_ne_nil _ nonempty,
    List.dropLast_append_of_ne_nil nonempty]
  split <;> rfl

theorem parts_eq (first : Text) (later : List Text) :
    parts first later = withoutBlankLast ((first :: later).map Text.trim) := by
  induction later generalizing first with
  | nil =>
      rw [parts, withoutBlankLast]
      by_cases blank : Text.trim first = []
      · simp [blank]
      · simp [blank]
  | cons next later ih =>
      have rest : (next :: later).map Text.trim ≠ [] := by simp
      rw [parts, ih]
      exact (withoutBlankLast_append [Text.trim first] rest).symm

theorem split_eq_pieces (raw : Text) :
    split [delimiter] raw =
      withoutBlankLast ((pieces delimiter none raw).map Text.trim) :=
  parts_eq _ _

theorem split_append_of_settled (noQuote : isQuote delimiter = false) {raw : Text}
    (settled : Settled raw) (rest : Text) :
    split [delimiter] (raw ++ delimiter :: rest) =
      (pieces delimiter none raw).map Text.trim ++ split [delimiter] rest := by
  rw [split_eq_pieces, pieces_append noQuote, settled.openBehind_eq, pieces_cons noQuote,
    if_pos ⟨rfl, rfl⟩, joinEnds_nil_cons (pieces_ne_nil _ _ raw), List.map_append,
    withoutBlankLast_append _ (by simp [pieces]), split_eq_pieces]

end Parts

section Again

variable {delimiter : Char}

/-- A text with closed spans in which nothing is cut is passed as a whole. -/
theorem closed_of_settled (noQuote : isQuote delimiter = false) {text : Text}
    (settled : openBehind none text = none)
    (uncut : (pieces delimiter none text).length = 1) : Closed delimiter text := by
  intro rest
  have whole := pieces_append noQuote none text rest
  rw [pieces_eq_singleton noQuote uncut, settled] at whole
  obtain ⟨first, later⟩ := List.cons.inj whole
  exact Prod.ext first later

/-- Nothing is cut within a stretch, and only the last one can leave a span open. -/
theorem exists_pieces_eq (noQuote : isQuote delimiter = false) (raw : Text) :
    ∃ front last, pieces delimiter none raw = front ++ [last] ∧
      (∀ piece ∈ front, openBehind none piece = none ∧
        (pieces delimiter none piece).length = 1) ∧
      openBehind none last = openBehind none raw ∧
      (pieces delimiter none last).length = 1 := by
  induction raw using List.reverseRecOn with
  | nil => exact ⟨[], [], rfl, by simp, rfl, rfl⟩
  | append_singleton raw char ih =>
      obtain ⟨front, last, whole, closed, same, uncut⟩ := ih
      rw [pieces_append noQuote, pieces_cons noQuote]
      by_cases cut : openBehind none raw = none ∧ char = delimiter
      · refine ⟨front ++ [last], [], ?_, ?_, ?_, rfl⟩
        · rw [if_pos cut, joinEnds_nil_cons (pieces_ne_nil _ _ raw), whole]
          rfl
        · intro piece member
          rcases List.mem_append.mp member with inside | alone
          · exact closed piece inside
          · rw [List.mem_singleton.mp alone]
            exact ⟨same.trans cut.1, uncut⟩
        · rw [openBehind_append, cut.1, cut.2, openBehind, openBehind, List.foldl_cons, after,
            noQuote]
          rfl
      · have joined : ∀ front, joinEnds (front ++ [last]) [[char]] = front ++ [last ++ [char]] := by
          intro front
          induction front with
          | nil => rfl
          | cons part front ih => rw [List.cons_append, joinEnds_cons (by simp), ih]; rfl
        refine ⟨front, last ++ [char], ?_, closed, ?_, ?_⟩
        · rw [if_neg cut, whole]
          exact joined front
        · rw [openBehind_append, openBehind_append, same]
        · have length := length_joinEnds (pieces_ne_nil delimiter none last)
            (pieces_ne_nil delimiter (openBehind none last) [char])
          have single : (pieces delimiter (openBehind none last) [char]).length = 1 := by
            rw [pieces_cons noQuote, same, if_neg cut]
            rfl
          rw [pieces_append noQuote]
          omega

theorem isQuote_of_openBehind {text : Text} {quote : Option Char} {mark : Char}
    (isOpen : openBehind quote text = some mark)
    (before : ∀ earlier ∈ quote, isQuote earlier = true) : isQuote mark = true := by
  induction text generalizing quote with
  | nil => exact before mark isOpen
  | cons char text ih =>
      apply ih isOpen
      intro next found
      cases quote with
      | none =>
          simp only [after, Option.mem_ite_none_right, Option.mem_some] at found
          rw [← found.2]
          exact found.1
      | some earlier =>
          simp only [after, Option.mem_ite_none_left, Option.mem_some] at found
          rw [← found.2]
          exact before earlier rfl

theorem openBehind_blank {text : Text} (blank : ∀ char ∈ text, Text.isBlank char = true)
    {quote : Option Char} (isMark : ∀ mark ∈ quote, isQuote mark = true) :
    openBehind quote text = quote := by
  induction text with
  | nil => rfl
  | cons char text ih =>
      obtain ⟨here, later⟩ := List.forall_mem_cons.mp blank
      have differs : ∀ mark, isQuote mark = true → char ≠ mark := by
        rintro mark isQuote rfl
        rw [isBlank_of_isQuote isQuote] at here
        exact absurd here (by decide)
      have same : after quote char = quote := by
        cases quote with
        | none =>
            rw [after, if_neg fun isQuote => differs char isQuote rfl]
        | some mark => rw [after, if_neg (differs mark (isMark mark rfl))]
      rw [openBehind, List.foldl_cons, same]
      exact ih later

/-- A stretch keeps its spans when it is trimmed. -/
theorem closed_trim (noQuote : isQuote delimiter = false) {piece : Text}
    (settled : openBehind none piece = none)
    (uncut : (pieces delimiter none piece).length = 1) : Closed delimiter (Text.trim piece) := by
  obtain ⟨before, behind, whole, blankBefore, blankBehind⟩ := Text.exists_eq_append_trim piece
  have unopened : openBehind none before = none := openBehind_blank blankBefore (by simp)
  have isMark : ∀ mark ∈ openBehind none (Text.trim piece), isQuote mark = true :=
    fun mark isOpen => isQuote_of_openBehind isOpen (by simp)
  have lengths : ∀ quote text, 0 < (pieces delimiter quote text).length := fun _ _ => by
    simp [pieces]
  apply closed_of_settled noQuote
  · rw [whole, openBehind_append, openBehind_append, unopened,
      openBehind_blank blankBehind isMark] at settled
    exact settled
  · have outer := length_joinEnds (pieces_ne_nil delimiter none (before ++ Text.trim piece))
      (pieces_ne_nil delimiter (openBehind none (before ++ Text.trim piece)) behind)
    have inner := length_joinEnds (pieces_ne_nil delimiter none before)
      (pieces_ne_nil delimiter (openBehind none before) (Text.trim piece))
    rw [← pieces_append noQuote] at outer inner
    rw [← whole] at outer
    rw [unopened] at inner
    have one := lengths none before
    have other := lengths (openBehind none (before ++ Text.trim piece)) behind
    have least := lengths none (Text.trim piece)
    omega

/-- Trimmed texts that are passed as a whole are found again when each is written with a
delimiter behind it. -/
theorem split_flatMap (noQuote : isQuote delimiter = false) {texts : List Text}
    (closed : ∀ text ∈ texts, Closed delimiter text ∧ Text.trim text = text) :
    split [delimiter] (texts.flatMap fun text => text ++ [delimiter]) = texts := by
  induction texts with
  | nil => rfl
  | cons text texts ih =>
      obtain ⟨⟨here, trimmed⟩, later⟩ := List.forall_mem_cons.mp closed
      rw [List.flatMap_cons, List.append_assoc, List.singleton_append,
        split_append_cons here noQuote, trimmed, ih later]

theorem mem_of_mem_withoutBlankLast {parts : List Text} {part : Text}
    (member : part ∈ withoutBlankLast parts) : part ∈ parts := by
  rw [withoutBlankLast] at member
  split at member
  · exact (List.dropLast_sublist parts).subset member
  · exact member

theorem closed_of_mem_split (noQuote : isQuote delimiter = false) {raw : Text}
    (settled : Settled raw) {part : Text} (member : part ∈ split [delimiter] raw) :
    Closed delimiter part ∧ Text.trim part = part := by
  rw [split_eq_pieces] at member
  obtain ⟨piece, inside, rfl⟩ := List.mem_map.mp (mem_of_mem_withoutBlankLast member)
  refine ⟨?_, Text.trim_trim piece⟩
  obtain ⟨front, last, whole, closed, same, uncut⟩ := exists_pieces_eq noQuote raw
  rw [whole] at inside
  rcases List.mem_append.mp inside with earlier | alone
  · exact closed_trim noQuote (closed piece earlier).1 (closed piece earlier).2
  · rw [List.mem_singleton.mp alone]
    exact closed_trim noQuote (same.trans settled.openBehind_eq) uncut

end Again

/-- The parts of a text are the trimmed stretches between its delimiters outside quoted
spans, in their order and without a blank last one.  If all spans of the text are closed,
whatever follows behind a delimiter is split by itself, and the parts are found again when
each is written with a delimiter behind it. -/
theorem split_exact {delimiter : Char} (noQuote : isQuote delimiter = false) (raw : Text) :
    split [delimiter] raw =
      withoutBlankLast ((between raw 0 (cuts delimiter raw)).map Text.trim) ∧
    (Settled raw → ∀ rest, split [delimiter] (raw ++ delimiter :: rest) =
      (between raw 0 (cuts delimiter raw)).map Text.trim ++ split [delimiter] rest) ∧
    (Settled raw →
      split [delimiter] ((split [delimiter] raw).flatMap fun part => part ++ [delimiter]) =
        split [delimiter] raw) := by
  rw [← pieces_eq_between noQuote]
  refine ⟨split_eq_pieces raw, fun settled rest => split_append_of_settled noQuote settled rest,
    fun settled => ?_⟩
  exact split_flatMap noQuote fun part member => closed_of_mem_split noQuote settled member

/-- A list with an empty part, a quote inside a span of the other kind, a delimiter inside
a span, and a blank end. -/
theorem split_exact_mixed :
    isQuote ',' = false ∧ Settled "a,, 'b\",c' \"d'\" , ".toList ∧
    cuts ',' "a,, 'b\",c' \"d'\" , ".toList = [1, 2, 16] ∧
    split [','] "a,, 'b\",c' \"d'\" , ".toList =
      ["a".toList, [], "'b\",c' \"d'\"".toList] ∧
    split [','] ("a,, 'b\",c' \"d'\" , ".toList ++ ',' :: "e".toList) =
      ["a".toList, [], "'b\",c' \"d'\"".toList, [], "e".toList] ∧
    split [','] "a,,'b\",c' \"d'\",".toList = ["a".toList, [], "'b\",c' \"d'\"".toList] := by
  have settled : Settled "a,, 'b\",c' \"d'\" , ".toList := by decide
  have places : cuts ',' "a,, 'b\",c' \"d'\" , ".toList = [1, 2, 16] := by decide
  obtain ⟨whole, further, again⟩ :=
    split_exact (show isQuote ',' = false by decide) "a,, 'b\",c' \"d'\" , ".toList
  have parts : split [','] "a,, 'b\",c' \"d'\" , ".toList =
      ["a".toList, [], "'b\",c' \"d'\"".toList] := by
    rw [whole, places]
    decide
  refine ⟨by decide, settled, places, parts, ?_, ?_⟩
  · rw [further settled, places]
    decide
  · rw [parts] at again
    exact again settled

end Stencil.Arguments
