import Stencil.Proofs.Template.Bindings

/-!
# Placeholders

What a placeholder is found at is always a tag with the name between blank
characters inside.  So the placeholders of names without braces are whole tags
and a tag that is none of them is a seam: the texts before it and behind it are
filled in as if they stood alone, whatever they are.  In a text with one tag only,
names of any kind can be found at that tag alone.
-/

namespace Stencil

namespace Tag

theorem tagged_append_inj_of_free {interior other after rest : Text}
    (free : Text.isBraceFree interior = true) (freeAfter : Text.isBraceFree after = true)
    (same : tagged interior ++ after = tagged other ++ rest) : interior = other ∧ after = rest := by
  apply tagged_append_inj free _ same
  -- All the braces of the text are those of its tag.
  have openings := congrArg (List.count '\x7b') same
  have closings := congrArg (List.count '\x7d') same
  obtain ⟨noOpening, noClosing⟩ := Text.not_mem_of_isBraceFree free
  obtain ⟨noMore, noEnd⟩ := Text.not_mem_of_isBraceFree freeAfter
  have alone : List.count '\x7b' opening = 2 ∧ List.count '\x7b' closing = 0 ∧
      List.count '\x7d' opening = 0 ∧ List.count '\x7d' closing = 2 := by decide
  obtain ⟨two, none, zero, both⟩ := alone
  simp only [tagged, List.count_append, two, none, zero, both,
    List.count_eq_zero_of_not_mem noOpening, List.count_eq_zero_of_not_mem noClosing,
    List.count_eq_zero_of_not_mem noMore, List.count_eq_zero_of_not_mem noEnd]
    at openings closings
  apply Text.isBraceFree_of_not_mem
  · apply List.count_eq_zero.mp
    omega
  · apply List.count_eq_zero.mp
    omega

/-- In a text with one tag, only names that stand inside it are found there. -/
theorem read_placeholder_of_not_pads_of_free {name interior after : Text}
    (free : Text.isBraceFree interior = true) (freeAfter : Text.isBraceFree after = true)
    (apart : ¬ Pads name interior) :
    (placeholder name).read (tagged interior ++ after) = none := by
  cases read : (placeholder name).read (tagged interior ++ after) with
  | none => rfl
  | some found =>
      obtain ⟨raw, token, rest⟩ := found
      obtain ⟨other, pads, _, same⟩ := exists_of_read_placeholder read
      obtain ⟨rfl, _⟩ := tagged_append_inj_of_free free freeAfter same
      exact absurd pads apart

theorem replaceAll_placeholder_free (name content : Text) {text : Text}
    (free : Text.isBraceFree text = true) :
    (placeholder name).replaceAll content text = text := by
  have whole := replaceAll_inert_append name (Text.isInert_of_isBraceFree free) content []
  have none : (placeholder name).replaceAll content [] = [] := by
    rw [Matcher.replaceAll, Matcher.pieces, List.flatMap_nil]
  rwa [none, List.append_nil] at whole

section OneTag

variable {name before interior after : Text} (freeBefore : Text.isBraceFree before = true)
  (free : Text.isBraceFree interior = true) (freeAfter : Text.isBraceFree after = true)

include freeBefore free freeAfter

theorem replaceAll_of_pads (pads : Pads name interior) (content : Text) :
    (placeholder name).replaceAll content (before ++ tagged interior ++ after) =
      before ++ content ++ after := by
  have nameFree : Text.isBraceFree name = true := by rw [← isBraceFree_of_pads pads, free]
  rw [List.append_assoc, replaceAll_inert_append name (Text.isInert_of_isBraceFree freeBefore),
    replaceAll_pads_append nameFree free pads, replaceAll_placeholder_free name content freeAfter,
    List.append_assoc]

theorem replaceAll_of_not_pads (apart : ¬ Pads name interior) (content : Text) :
    (placeholder name).replaceAll content (before ++ tagged interior ++ after) =
      before ++ tagged interior ++ after := by
  have plain := pieces_tagged_of_read_none (startsOpen_placeholder name) free
    (read_placeholder_of_not_pads_of_free free freeAfter apart)
  rw [List.append_assoc, replaceAll_inert_append name (Text.isInert_of_isBraceFree freeBefore),
    replaceAll_plain_append plain, replaceAll_placeholder_free name content freeAfter]

end OneTag

theorem suffix_tail_tagged {interior text rest : Text} (nonempty : text ≠ [])
    (parts : tagged interior = text ++ rest) : rest <:+ '\x7b' :: (interior ++ closing) := by
  cases text with
  | nil => exact absurd rfl nonempty
  | cons char text =>
      have tail := congrArg List.tail parts
      exact ⟨text, by simpa [tagged, opening] using tail.symm⟩

section Seams

variable {name : Text} (nameFree : Text.isBraceFree name = true)

include nameFree

theorem read_placeholder_append_tagged {text : Text} (nonempty : text ≠ [])
    (interior after : Text) :
    (placeholder name).read (text ++ (tagged interior ++ after)) =
      ((placeholder name).read text).map
        fun (raw, token, rest) => (raw, token, rest ++ (tagged interior ++ after)) := by
  cases here : (placeholder name).read text with
  | some found =>
      obtain ⟨raw, token, rest⟩ := found
      obtain ⟨other, pads, rfl, rfl⟩ := exists_of_read_placeholder here
      have otherFree : Text.isBraceFree other = true := by rw [isBraceFree_of_pads pads, nameFree]
      rw [List.append_assoc, read_placeholder_of_pads nameFree otherFree pads]
      rfl
  | none =>
      cases there : (placeholder name).read (text ++ (tagged interior ++ after)) with
      | none => rfl
      | some found =>
          obtain ⟨raw, token, rest⟩ := found
          obtain ⟨other, pads, _, same⟩ := exists_of_read_placeholder there
          have otherFree : Text.isBraceFree other = true := by
            rw [isBraceFree_of_pads pads, nameFree]
          rcases List.append_eq_append_iff.mp same with ⟨missing, longer, short⟩ | ⟨more, fits, _⟩
          · cases missing with
            | nil =>
                have read := read_placeholder_of_pads nameFree otherFree pads []
                rw [longer, List.append_nil, List.append_nil, here] at read
                exact absurd read (by simp)
            | cons char missing =>
                -- What is missing would begin with two braces, but no tag begins inside another.
                have inert := Text.isInert_of_suffix (isInert_tail_tagged otherFree)
                  (suffix_tail_tagged nonempty longer)
                have none := Text.after?_opening_of_isInert inert rest
                rw [← short, after?_opening_tagged] at none
                exact absurd none (by simp)
          · have read := read_placeholder_of_pads nameFree otherFree pads more
            rw [← fits, here] at read
            exact absurd read (by simp)

/-- A tag is a seam for a placeholder: what is before it is read as if it stood alone. -/
theorem pieces_placeholder_append_tagged (text interior after : Text) :
    (placeholder name).pieces (text ++ (tagged interior ++ after)) =
      (placeholder name).pieces text ++ (placeholder name).pieces (tagged interior ++ after) :=
  Matcher.pieces_append fun _ _ nonempty =>
    read_placeholder_append_tagged nameFree nonempty interior after

theorem replaceAll_append_tagged_append {interior : Text}
    (free : Text.isBraceFree interior = true) (apart : ¬ Pads name interior)
    (content before after : Text) :
    (placeholder name).replaceAll content (before ++ (tagged interior ++ after)) =
      (placeholder name).replaceAll content before ++
        (tagged interior ++ (placeholder name).replaceAll content after) := by
  rw [← replaceAll_apart_append nameFree free apart, Matcher.replaceAll,
    pieces_placeholder_append_tagged nameFree, List.flatMap_append]
  rfl

end Seams

end Tag

namespace Loop

open Tag

/-- Whether no name is bound that a tag is spelled like. -/
def IsUnbound (interior : Text) (bindings : List (Text × Text)) : Prop :=
  ∀ binding ∈ bindings, ¬ Pads binding.1 interior

/-- Whether a text is bound first to a name that a tag is spelled like, before some
other names. -/
inductive BoundAt (interior content : Text) (later : List (Text × Text)) :
    List (Text × Text) → Prop
  | here {name : Text} (pads : Pads name interior) :
      BoundAt interior content later ((name, content) :: later)
  | there {binding : Text × Text} {bindings : List (Text × Text)}
      (apart : ¬ Pads binding.1 interior) (behind : BoundAt interior content later bindings) :
      BoundAt interior content later (binding :: bindings)

theorem isUnbound_or_boundAt (interior : Text) (bindings : List (Text × Text)) :
    IsUnbound interior bindings ∨ ∃ content later, BoundAt interior content later bindings := by
  induction bindings with
  | nil => exact .inl nofun
  | cons binding bindings ih =>
      by_cases pads : Pads binding.1 interior
      · exact .inr ⟨binding.2, bindings, .here pads⟩
      · rcases ih with unbound | ⟨content, later, behind⟩
        · exact .inl (List.forall_mem_cons.mpr ⟨pads, unbound⟩)
        · exact .inr ⟨content, later, .there pads behind⟩

namespace BoundAt

variable {interior content : Text} {later bindings : List (Text × Text)}
  (bound : BoundAt interior content later bindings)

include bound

theorem exists_mem : ∃ name, (name, content) ∈ bindings ∧ Pads name interior := by
  induction bound with
  | @here name pads => exact ⟨name, List.mem_cons_self, pads⟩
  | there _ _ ih =>
      obtain ⟨name, member, pads⟩ := ih
      exact ⟨name, List.mem_cons_of_mem _ member, pads⟩

theorem suffix : later <:+ bindings := by
  induction bound with
  | here => exact List.suffix_cons _ later
  | there _ _ ih => exact ih.trans (List.suffix_cons _ _)

end BoundAt

section OneTag

variable {before interior after : Text} (freeBefore : Text.isBraceFree before = true)
  (free : Text.isBraceFree interior = true) (freeAfter : Text.isBraceFree after = true)

include freeBefore free freeAfter

theorem bind_of_isUnbound {bindings : List (Text × Text)} (unbound : IsUnbound interior bindings) :
    bind bindings (before ++ tagged interior ++ after) = before ++ tagged interior ++ after := by
  induction bindings with
  | nil => rfl
  | cons binding bindings ih =>
      obtain ⟨here, rest⟩ := List.forall_mem_cons.mp unbound
      rw [bind_cons, replaceAll_of_not_pads freeBefore free freeAfter here, ih rest]

/-- At the one tag of a text the first name found is filled in, and the later names
in what has come of it. -/
theorem bind_of_boundAt {content : Text} {later bindings : List (Text × Text)}
    (bound : BoundAt interior content later bindings) :
    bind bindings (before ++ tagged interior ++ after) = bind later (before ++ content ++ after) := by
  induction bound with
  | here pads => rw [bind_cons, replaceAll_of_pads freeBefore free freeAfter pads]
  | there apart _ ih =>
      rw [bind_cons, replaceAll_of_not_pads freeBefore free freeAfter apart, ih]

end OneTag

/-- A tag that no name is spelled like stays where it is, whatever is around it. -/
theorem bind_append_tagged_append {interior : Text} (free : Text.isBraceFree interior = true)
    {bindings : List (Text × Text)} (unbound : IsUnbound interior bindings)
    (namesFree : ∀ binding ∈ bindings, Text.isBraceFree binding.1 = true) (before after : Text) :
    bind bindings (before ++ tagged interior ++ after) =
      bind bindings before ++ tagged interior ++ bind bindings after := by
  induction bindings generalizing before after with
  | nil => rfl
  | cons binding bindings ih =>
      obtain ⟨here, rest⟩ := List.forall_mem_cons.mp unbound
      obtain ⟨nameFree, laterFree⟩ := List.forall_mem_cons.mp namesFree
      rw [bind_cons, bind_cons, bind_cons, List.append_assoc,
        replaceAll_append_tagged_append nameFree free here, ← List.append_assoc,
        ih rest laterFree]

theorem all_isWord_of_word? {text word rest : Text} (found : Spec.word? Text.isWord text =
    some (word, rest)) : word.all Text.isWord = true := by
  unfold Spec.word? at found
  split at found
  · exact absurd found (by simp)
  · cases found
    exact List.all_takeWhile

theorem Spec.all_isWord_names (header : Text) :
    (ofText header).keyName.all Text.isWord = true ∧
      (ofText header).valueName.all Text.isWord = true := by
  have usual : "index".toList.all Text.isWord = true ∧ "item".toList.all Text.isWord = true := by
    decide +kernel
  unfold ofText
  dsimp only
  cases named : named? (Text.trim header) with
  | none => exact usual
  | some spec =>
      simp only [named?, Option.bind_eq_bind, Option.bind_eq_some_iff, Prod.exists] at named
      obtain ⟨_, _, _, _, _, _, _, _, _, keyName, _, keyWord, _, _, valueName, _, valueWord,
        ended⟩ := named
      split at ended
      · cases ended
        exact ⟨all_isWord_of_word? keyWord, all_isWord_of_word? valueWord⟩
      · exact absurd ended (by simp)

/-- No part of a mapping is bound to a name that a tag of an `if` block is spelled
like. -/
theorem not_pads_part {valueName : Text} (word : valueName.all Text.isWord = true) (key : Text)
    {interior : Text} {mark : Mark} (marked : ifMark? interior = some mark) :
    ¬ Pads (valueName ++ '.' :: key) interior := by
  rintro ⟨before, after, whole, blankBefore, _⟩
  have spelled := ifMark?_cases marked
  have first : ∀ char ∈ interior.head?, Text.isBlank char = false := by
    intro char first
    rcases spelled with rfl | rfl | ⟨blank, rest, rfl, _⟩
    · cases first
      decide
    · cases first
      decide
    · cases first
      decide
  cases before with
  | cons char before =>
      have solid := first char (by simp [whole])
      rw [blankBefore char List.mem_cons_self] at solid
      exact absurd solid (by decide)
  | nil =>
      have dotted : interior = valueName ++ '.' :: (key ++ after) := by simpa using whole
      rcases spelled with same | same | ⟨blank, rest, same, isBlank, _⟩
      · exact absurd (dotted ▸ same) (ne_of_mem_of_not_mem' (a := '.') (by simp) (by decide))
      · exact absurd (dotted ▸ same) (ne_of_mem_of_not_mem' (a := '.') (by simp) (by decide))
      · -- The word of the tag ends at a blank character, the name of the value at a dot.
        have letters : ['i', 'f'].all Text.isWord = true := by decide
        have stopsAtBlank : ∀ char ∈ (blank :: rest).head?, Text.isWord char = false := by
          intro char first
          cases first
          cases found : Text.isWord blank with
          | false => rfl
          | true =>
              rw [Text.isBlank_of_isPathChar (Text.isPathChar_of_isWord found)] at isBlank
              exact absurd isBlank (by decide)
        have stopsAtDot : ∀ char ∈ ('.' :: (key ++ after)).head?, Text.isWord char = false := by
          intro char first
          cases first
          decide
        have rests : (['i', 'f'] ++ blank :: rest).dropWhile Text.isWord =
            (valueName ++ '.' :: (key ++ after)).dropWhile Text.isWord := by
          rw [← dotted, same]
          rfl
        rw [Text.dropWhile_append_of_stop letters stopsAtBlank,
          Text.dropWhile_append_of_stop word stopsAtDot] at rests
        injection rests with ends
        exact Text.ne_of_isBlank isBlank (by decide) ends

end Loop

end Stencil
