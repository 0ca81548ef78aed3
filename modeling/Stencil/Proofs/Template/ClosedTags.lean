import Stencil.Proofs.Template.Tagged
import Stencil.Proofs.Text.Split

/-!
# Tags up to their closing braces

A tag begins with two opening braces and goes up to the first closing ones.  So a
matcher of tags that reads a text with closing braces at its end looks no further,
and the tokens of such a text and of what follows it are found apart.  In a text
with closing braces nowhere but at its end there is no more than one tag.
-/

namespace Stencil

namespace Text

theorem cut?_closing_front {front text before rest : Text} (apart : '\x7d' ∉ front)
    (found : cut? Tag.closing text = some (before, rest)) :
    cut? Tag.closing (front ++ text) = some (front ++ before, rest) := by
  induction front with
  | nil => exact found
  | cons char front ih =>
      have differs : '\x7d' ≠ char := fun same => apart (same ▸ List.mem_cons_self)
      have none : after? Tag.closing (char :: (front ++ text)) = none := by
        simp [Tag.closing, after?, differs]
      rw [List.cons_append, cut?, none, ih fun member => apart (List.mem_cons_of_mem char member)]
      rfl

/-- A cut is the same if nothing follows. -/
theorem cut?_closed {needle text before rest : Text}
    (found : cut? needle text = some (before, rest)) :
    cut? needle (before ++ needle) = some (before, []) := by
  obtain ⟨first, more, here⟩ := exists_cut?_of_infix (List.suffix_append before needle).isInfix
  have there := cut?_append here rest
  rw [← eq_append_of_cut? found, found] at there
  injection there with same
  injection same with first more
  rw [here, first, List.append_left_eq_self.mp more.symm]

theorem closing_suffix_of_append {front text : Text} (apart : '\x7d' ∉ front)
    (ends : Tag.closing <:+ front ++ text) : Tag.closing <:+ text := by
  induction front with
  | nil => exact ends
  | cons char front ih =>
      rw [List.cons_append] at ends
      rcases List.suffix_cons_iff.mp ends with whole | later
      · injection whole with same
        exact absurd (same ▸ List.mem_cons_self) apart
      · exact ih (fun member => apart (List.mem_cons_of_mem char member)) later

end Text

namespace Tag

/-- Whether closing braces stand at the end of a text and nowhere before. -/
def ClosedOnce (text : Text) : Prop :=
  ∃ stem, Text.cut? closing text = some (stem, [])

namespace ClosedOnce

theorem closing_suffix {text : Text} (once : ClosedOnce text) : closing <:+ text := by
  obtain ⟨stem, cut⟩ := once
  have whole := Text.eq_append_of_cut? cut
  rw [List.append_nil] at whole
  exact ⟨stem, whole.symm⟩

theorem eq_nil {front rest : Text} (once : ClosedOnce (front ++ rest))
    (inside : closing <:+: front) : rest = [] := by
  obtain ⟨stem, cut⟩ := once
  obtain ⟨before, more, sooner⟩ := Text.exists_cut?_of_infix inside
  have there := Text.cut?_append sooner rest
  rw [cut] at there
  injection there with same
  injection same with _ behind
  exact (List.append_eq_nil_iff.mp behind.symm).2

end ClosedOnce

end Tag

namespace Matcher

/-- Whether what a matcher reads of a text that ends with closing braces is all
there, whatever follows. -/
def ReadsClosed (matcher : Matcher α) : Prop :=
  ∀ text more, Tag.closing <:+ text → matcher.read (text ++ more) =
    (matcher.read text).map fun (raw, token, rest) => (raw, token, rest ++ more)

/-- Whether every token of a matcher ends at its first closing braces. -/
def EndsClosed (matcher : Matcher α) : Prop :=
  ∀ text raw token rest, matcher.read text = some (raw, token, rest) → Tag.ClosedOnce raw

/-- Whether a matcher reads tags: two opening braces and what follows up to the
first closing ones, whatever is behind those. -/
structure ReadsTags (matcher : Matcher α) : Prop where
  startsOpen : matcher.StartsOpen
  readsClosed : matcher.ReadsClosed
  endsClosed : matcher.EndsClosed

theorem readsClosed_literal {word : Text} (nonempty : word ≠ []) (token : α)
    (once : Tag.ClosedOnce word) : (literal word nonempty token).ReadsClosed := by
  intro text more ends
  show Option.map _ _ = Option.map _ (Option.map _ _)
  rcases Text.after?_append_cases word text more with ⟨rest, here, there⟩ | ⟨here, there⟩
  · rw [here, there]
    rfl
  · rw [here]
    cases found : Text.after? word (text ++ more) with
    | none => rfl
    | some rest =>
        obtain ⟨missing, more, rfl, _⟩ := there rest found
        exact absurd (once.eq_nil ends.isInfix) more

theorem endsClosed_literal {word : Text} (nonempty : word ≠ []) (token : α)
    (once : Tag.ClosedOnce word) : (literal word nonempty token).EndsClosed := by
  intro text raw found rest read
  obtain ⟨_, _, same⟩ := Option.map_eq_some_iff.mp read
  cases same
  exact once

theorem readsTags_literal {word : Text} (nonempty : Tag.opening ++ word ≠ []) (token : α)
    (once : Tag.ClosedOnce (Tag.opening ++ word)) :
    (literal (Tag.opening ++ word) nonempty token).ReadsTags where
  startsOpen := startsOpen_literal nonempty token
  readsClosed := readsClosed_literal nonempty token once
  endsClosed := endsClosed_literal nonempty token once

theorem endsClosed_orElse {first second : Matcher α} (left : first.EndsClosed)
    (right : second.EndsClosed) : (first.orElse second).EndsClosed := by
  intro text raw token rest read
  rcases Option.or_eq_some_iff.mp read with found | ⟨_, found⟩
  · exact left _ _ _ _ found
  · exact right _ _ _ _ found

/-- Tokens that begin in a text that ends with closing braces end in it. -/
theorem pieces_closed_append {matcher : Matcher α} (reads : matcher.ReadsTags) {text : Text}
    (ends : Tag.closing <:+ text) (more : Text) :
    matcher.pieces (text ++ more) = matcher.pieces text ++ matcher.pieces more := by
  apply pieces_append
  intro rest suffix nonempty
  rcases List.suffix_or_suffix_of_suffix ends suffix with closed | short
  · exact reads.readsClosed rest more closed
  · rcases List.suffix_cons_iff.mp short with whole | last
    · exact reads.readsClosed rest more (whole ▸ List.suffix_refl _)
    · -- Behind the first of the closing braces there is nothing to begin a token with.
      rcases List.suffix_cons_iff.mp last with rfl | none
      · have never : ∀ tail, Text.after? Tag.opening ('\x7d' :: tail) = none := by
          intro tail
          simp [Tag.opening, Text.after?]
        rw [reads.startsOpen _ (never []), List.singleton_append, reads.startsOpen _ (never more)]
        rfl
      · exact absurd (List.suffix_nil.mp none) nonempty

theorem length_tokens_le_one {matcher : Matcher α} (closed : matcher.EndsClosed) {text : Text}
    (last : ∀ front rest, text = front ++ rest → Tag.closing <:+: front → rest = []) :
    (matcher.tokens text).length ≤ 1 := by
  rw [tokens]
  fun_induction pieces matcher text with
  | case1 => exact Nat.zero_le 1
  | case2 char text raw token rest read ih =>
      have nothing := last raw rest (matcher.sound read).2 (closed _ _ _ _ read).closing_suffix.isInfix
      subst nothing
      simp [pieces, Piece.token?]
  | case3 char text read ih =>
      rw [List.filterMap_cons_none rfl]
      apply ih
      intro front rest whole inside
      exact last (char :: front) rest (by rw [whole]; rfl) (List.infix_cons inside)

/-- Whether a matcher has a token in a text. -/
def finds (matcher : Matcher α) (text : Text) : Bool :=
  !(matcher.tokens text).isEmpty

theorem finds_iff {matcher : Matcher α} {text : Text} :
    matcher.finds text = true ↔
      ∃ before rest, text = before ++ rest ∧ (matcher.read rest).isSome = true := by
  rw [← tokens_ne_nil_iff, finds]
  simp

end Matcher

namespace Tag

section Headed

variable {start : Text} (nonempty : start ≠ []) (spaced : Bool) (accepts : Text → Bool)

/-- A tag is read if one with any header is read and its header is accepted. -/
theorem read_headed_iff {text raw header rest : Text} :
    (headed start nonempty spaced accepts).read text = some (raw, header, rest) ↔
      (headed start nonempty spaced fun _ => true).read text = some (raw, header, rest) ∧
        accepts header = true := by
  simp only [headed, Option.bind_eq_bind, if_true]
  cases Text.after? start text with
  | none => simp
  | some body =>
      simp only [Option.bind_some]
      generalize (if spaced then body.takeWhile Text.isBlank else []) = blanks
      generalize (if spaced then body.dropWhile Text.isBlank else body) = tail
      split
      · simp
      · cases Text.cut? closing tail with
        | none => simp
        | some cut =>
            obtain ⟨found, later⟩ := cut
            simp only [Option.bind_some]
            split
            · next accepted =>
                simp only [Option.some.injEq, Prod.mk.injEq]
                constructor
                · rintro ⟨whole, rfl, same⟩
                  exact ⟨⟨whole, rfl, same⟩, accepted⟩
                · exact And.left
            · next refused =>
                simp only [reduceCtorEq, Option.some.injEq, Prod.mk.injEq, false_iff]
                rintro ⟨⟨_, rfl, _⟩, accepted⟩
                exact refused accepted

theorem endsClosed_headed (apart : '\x7d' ∉ start) :
    (headed start nonempty spaced accepts).EndsClosed := by
  intro text raw header rest read
  simp only [headed, Option.bind_eq_bind, Option.bind_eq_some_iff] at read
  obtain ⟨body, _, read⟩ := read
  have blank : '\x7d' ∉ if spaced then body.takeWhile Text.isBlank else [] := by
    cases spaced with
    | false => exact List.not_mem_nil
    | true => exact fun member => absurd (List.mem_takeWhile_imp member) (by decide)
  generalize (if spaced then body.takeWhile Text.isBlank else []) = blanks at read blank
  generalize (if spaced then body.dropWhile Text.isBlank else body) = tail at read
  split at read
  · exact absurd read (by simp)
  · obtain ⟨⟨found, later⟩, cut, read⟩ := Option.bind_eq_some_iff.mp read
    split at read
    · simp only [Option.some.injEq, Prod.mk.injEq] at read
      obtain ⟨rfl, rfl, rfl⟩ := read
      refine ⟨start ++ blanks ++ found, ?_⟩
      rw [List.append_assoc (start ++ blanks)]
      apply Text.cut?_closing_front _ (Text.cut?_closed cut)
      rw [List.mem_append]
      exact fun member => member.elim apart blank
    · exact absurd read (by simp)

theorem readsClosed_headed (apart : '\x7d' ∉ start) :
    (headed start nonempty spaced accepts).ReadsClosed := by
  intro text more ends
  simp only [headed, Option.bind_eq_bind]
  rcases Text.after?_append_cases start text more with ⟨body, here, there⟩ | ⟨here, there⟩
  · rw [here, there, Option.bind_some, Option.bind_some]
    rw [Text.after?_eq_some_iff] at here
    subst here
    have bodyEnds := Text.closing_suffix_of_append apart ends
    cases spaced with
    | false =>
        obtain ⟨header, rest, cut⟩ := Text.exists_cut?_of_infix bodyEnds.isInfix
        simp only [Bool.false_eq_true, if_false, Bool.false_and, cut, Text.cut?_append cut more,
          Option.bind_some]
        split <;> rfl
    | true =>
        have tailEnds : closing <:+ body.dropWhile Text.isBlank := by
          have blank : '\x7d' ∉ body.takeWhile Text.isBlank :=
            fun member => absurd (List.mem_takeWhile_imp member) (by decide)
          apply Text.closing_suffix_of_append blank
          rwa [List.takeWhile_append_dropWhile]
        simp only [if_true, Bool.true_and]
        rcases Text.dropWhile_append_cases Text.isBlank body more with ⟨none, _⟩ | ⟨same, longer⟩
        · rw [none] at tailEnds
          exact absurd (List.suffix_nil.mp tailEnds) (by decide)
        · obtain ⟨header, rest, cut⟩ := Text.exists_cut?_of_infix tailEnds.isInfix
          rw [same, longer, cut, Text.cut?_append cut more]
          cases (body.takeWhile Text.isBlank).isEmpty with
          | true => rfl
          | false =>
              simp only [Option.bind_some, Bool.false_eq_true, if_false]
              split <;> rfl
  · rw [here]
    cases found : Text.after? start (text ++ more) with
    | none => rfl
    | some rest =>
        obtain ⟨missing, _, rfl, _⟩ := there rest found
        exact absurd (List.mem_append_left missing (ends.subset (by decide))) apart

theorem readsTags_headed {start : Text} (nonempty : opening ++ start ≠ []) (spaced : Bool)
    (accepts : Text → Bool) (apart : '\x7d' ∉ opening ++ start) :
    (headed (opening ++ start) nonempty spaced accepts).ReadsTags where
  startsOpen := startsOpen_headed nonempty spaced accepts
  readsClosed := readsClosed_headed nonempty spaced accepts apart
  endsClosed := endsClosed_headed nonempty spaced accepts apart

end Headed

theorem endsClosed_ofHeader {matcher : Matcher Text} (closed : matcher.EndsClosed) :
    (Mark.ofHeader matcher).EndsClosed := by
  intro text raw mark rest read
  obtain ⟨⟨_, _, _⟩, found, same⟩ := Option.map_eq_some_iff.mp read
  cases same
  exact closed _ _ _ _ found

end Tag

end Stencil
