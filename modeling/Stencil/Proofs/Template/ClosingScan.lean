import Mathlib.Data.List.Find
import Stencil.Proofs.Template.Pairing

/-!
# The scan for a closing tag

The scan counts how many of the tags that it passes are still open.  The one
pass that pairs the tags keeps those tags waiting, the most recent one first, so
both close them at the same places; and a separator at depth zero is one that no
pair inside holds.  A scan that finds no closing tag leaves its opening tag
waiting to the end, below all that is paired after it.
-/

namespace Stencil

namespace Block

open PlacedTag Pairing

/-- What a scan for a closing tag finds, said of the tags that it passes: `opened`
are those passed before that are still open, `passed` those up to the closing
tag, and `inner` the pairs made of them. -/
structure Scan (start : Nat) (opened : List PlacedTag) (pieces : List (Piece Tag.Mark))
    (inside : Inside) (passed : List PlacedTag) (closer : PlacedTag) (inner : List TagPair) :
    Prop where
  tags : among start pieces = passed ++ closer :: among closer.stop inside.rest
  closes : closer.mark = .closes
  raw : closer.raw = inside.closer
  place : closer.start = start + (content inside.body inside.division).length
  run : ∀ waiting found,
    passed.foldl step ⟨opened ++ waiting, found⟩ = ⟨waiting, found ++ inner⟩
  openers : ∀ pair ∈ inner, pair.opener ∈ opened ∨ start ≤ pair.opener.start
  closers : ∀ pair ∈ inner, start ≤ pair.closer.start ∧ pair.closer.start < closer.start
  closed : ∀ opener ∈ opened, ∃ pair ∈ inner, pair.opener = opener
  divider : ∃ divider : Option PlacedTag,
    (passed.find? fun tag => tag.mark = .separates && inner.all fun pair => !pair.holds tag) =
        divider ∧
      (∀ tag ∈ divider, tag.start = start + inside.body.length) ∧
      ∃ rest, inside.division = divider.map fun tag => (tag.raw, rest)

namespace Scan

variable {start : Nat} {opened : List PlacedTag} {pieces : List (Piece Tag.Mark)}
  {inside : Inside} {passed : List PlacedTag} {closer : PlacedTag} {inner : List TagPair}

theorem content_push (raw : Text) (inside : Inside) :
    content (inside.push raw).body (inside.push raw).division =
      raw ++ content inside.body inside.division := by
  simp [content, Inside.push]

theorem plain (char : Char) (scan : Scan (start + 1) opened pieces inside passed closer inner) :
    Scan start opened (.plain char :: pieces) (inside.push [char]) passed closer inner where
  tags := scan.tags
  closes := scan.closes
  raw := scan.raw
  place := by
    rw [content_push, scan.place]
    simp
    omega
  run := scan.run
  openers pair member := (scan.openers pair member).imp_right (Nat.le_trans (Nat.le_succ start))
  closers pair member :=
    ⟨Nat.le_trans (Nat.le_succ start) (scan.closers pair member).1, (scan.closers pair member).2⟩
  closed := scan.closed
  divider := by
    obtain ⟨divider, found, place, rest, division⟩ := scan.divider
    refine ⟨divider, found, ?_, rest, division⟩
    intro tag member
    rw [place tag member, Inside.push]
    simp
    omega

theorem le_start_of_mem (scan : Scan start opened pieces inside passed closer inner)
    {tag : PlacedTag} (member : tag ∈ passed) : start ≤ tag.start := by
  have found : tag ∈ among start pieces := by
    rw [scan.tags]
    exact List.mem_append_left _ member
  exact start_le_of_mem found

section Token

variable {raw : Text} (scan : Scan (start + raw.length) opened pieces inside passed closer inner)

include scan

theorem tags_cons (mark : Tag.Mark) :
    among start (.token raw mark :: pieces) =
      (⟨start, raw, mark⟩ :: passed) ++ closer :: among closer.stop inside.rest := by
  rw [among, scan.tags, List.cons_append]

theorem place_push :
    closer.start =
      start + (content (inside.push raw).body (inside.push raw).division).length := by
  rw [content_push, List.length_append, scan.place, Nat.add_assoc]

theorem closers_before :
    ∀ pair ∈ inner, start ≤ pair.closer.start ∧ pair.closer.start < closer.start := by
  intro pair member
  obtain ⟨behind, before⟩ := scan.closers pair member
  exact ⟨Nat.le_trans (Nat.le_add_right start raw.length) behind, before⟩

theorem openers_behind :
    ∀ pair ∈ inner, pair.opener ∈ opened ∨ start ≤ pair.opener.start :=
  fun pair member =>
    (scan.openers pair member).imp_right (Nat.le_trans (Nat.le_add_right start raw.length))

end Token

theorem opens {raw header : Text}
    (scan : Scan (start + raw.length) (⟨start, raw, .opens header⟩ :: opened) pieces inside passed
      closer inner) :
    Scan start opened (.token raw (.opens header) :: pieces) (inside.push raw)
      (⟨start, raw, .opens header⟩ :: passed) closer inner where
  tags := scan.tags_cons _
  closes := scan.closes
  raw := scan.raw
  place := scan.place_push
  run waiting found := by
    rw [List.foldl_cons, step_opens rfl]
    exact scan.run waiting found
  openers pair member := by
    rcases scan.openers_behind pair member with before | later
    · rcases List.mem_cons.mp before with here | before
      · exact .inr (by rw [here])
      · exact .inl before
    · exact .inr later
  closers := scan.closers_before
  closed opener member := scan.closed opener (List.mem_cons_of_mem _ member)
  divider := by
    obtain ⟨divider, found, place, rest, division⟩ := scan.divider
    refine ⟨divider, ?_, ?_, rest, division⟩
    · rw [List.find?_cons_of_neg (by simp), found]
    · intro tag member
      rw [place tag member, Inside.push, List.length_append, Nat.add_assoc]

theorem closesInner {raw : Text} (solid : raw ≠ []) {opener : PlacedTag}
    (scan : Scan (start + raw.length) opened pieces inside passed closer inner) :
    Scan start (opener :: opened) (.token raw .closes :: pieces) (inside.push raw)
      (⟨start, raw, .closes⟩ :: passed) closer (⟨opener, ⟨start, raw, .closes⟩⟩ :: inner) where
  tags := scan.tags_cons _
  closes := scan.closes
  raw := scan.raw
  place := scan.place_push
  run waiting found := by
    rw [List.foldl_cons, List.cons_append, step_closes rfl, scan.run, List.append_assoc,
      List.singleton_append]
  openers pair member := by
    rcases List.mem_cons.mp member with rfl | later
    · exact .inl List.mem_cons_self
    · exact (scan.openers_behind pair later).imp_left (List.mem_cons_of_mem opener)
  closers pair member := by
    have long := List.length_pos_iff.mpr solid
    have place := scan.place
    rcases List.mem_cons.mp member with rfl | later
    · exact ⟨Nat.le_refl start, by show start < closer.start; omega⟩
    · exact scan.closers_before pair later
  closed other member := by
    rcases List.mem_cons.mp member with rfl | before
    · exact ⟨_, List.mem_cons_self, rfl⟩
    · obtain ⟨pair, among, same⟩ := scan.closed other before
      exact ⟨pair, List.mem_cons_of_mem _ among, same⟩
  divider := by
    obtain ⟨divider, found, place, rest, division⟩ := scan.divider
    refine ⟨divider, ?_, ?_, rest, division⟩
    · rw [List.find?_cons_of_neg (by simp), ← found]
      apply List.find?_congr
      intro tag member
      -- The pair ends before the tags that are still to come.
      have behind := Nat.le_trans (Nat.le_add_right start raw.length) (scan.le_start_of_mem member)
      have outside : TagPair.holds ⟨opener, ⟨start, raw, .closes⟩⟩ tag = false :=
        TagPair.holds_of_le_start behind
      rw [List.all_cons, outside, Bool.not_false, Bool.true_and]
    · intro tag member
      rw [place tag member, Inside.push, List.length_append, Nat.add_assoc]

theorem separatesInner {raw : Text} (solid : raw ≠ []) {opener : PlacedTag}
    (before : opener.start < start)
    (scan : Scan (start + raw.length) (opener :: opened) pieces inside passed closer inner) :
    Scan start (opener :: opened) (.token raw .separates :: pieces) (inside.push raw)
      (⟨start, raw, .separates⟩ :: passed) closer inner where
  tags := scan.tags_cons _
  closes := scan.closes
  raw := scan.raw
  place := scan.place_push
  run waiting found := by
    rw [List.foldl_cons, step_separates rfl]
    exact scan.run waiting found
  openers := scan.openers_behind
  closers := scan.closers_before
  closed := scan.closed
  divider := by
    obtain ⟨divider, found, place, rest, division⟩ := scan.divider
    refine ⟨divider, ?_, ?_, rest, division⟩
    · rw [← found]
      apply List.find?_cons_of_neg
      -- The pair of the last tag that is open holds the separator.
      obtain ⟨pair, member, same⟩ := scan.closed opener List.mem_cons_self
      have long := List.length_pos_iff.mpr solid
      have behind := (scan.closers pair member).1
      have inside : pair.holds ⟨start, raw, .separates⟩ = true := by
        rw [TagPair.holds_iff, same]
        exact ⟨before, by show start < pair.closer.start; omega⟩
      intro clear
      rw [Bool.and_eq_true, List.all_eq_true] at clear
      have outside := clear.2 pair member
      rw [inside] at outside
      exact absurd outside (by decide)
    · intro tag member
      rw [place tag member, Inside.push, List.length_append, Nat.add_assoc]

theorem divides {raw : Text}
    (scan : Scan (start + raw.length) [] pieces inside passed closer inner) :
    Scan start [] (.token raw .separates :: pieces) (inside.divide raw)
      (⟨start, raw, .separates⟩ :: passed) closer inner where
  tags := scan.tags_cons _
  closes := scan.closes
  raw := scan.raw
  place := by
    rw [scan.place]
    simp [content, Inside.divide]
    omega
  run waiting found := by
    rw [List.foldl_cons, step_separates rfl]
    exact scan.run waiting found
  openers := scan.openers_behind
  closers := scan.closers_before
  closed := scan.closed
  divider := by
    refine ⟨some ⟨start, raw, .separates⟩, ?_, ?_, content inside.body inside.division, rfl⟩
    · apply List.find?_cons_of_pos
      rw [Bool.and_eq_true, List.all_eq_true]
      refine ⟨by simp, ?_⟩
      intro pair member
      have behind := (scan.openers_behind pair member).resolve_left List.not_mem_nil
      rw [TagPair.holds_of_start_le behind]
      rfl
    · rintro tag ⟨⟩
      rfl

theorem finished (start : Nat) (raw : Text) (pieces : List (Piece Tag.Mark)) :
    Scan start [] (.token raw .closes :: pieces) ⟨[], none, raw, pieces⟩ []
      ⟨start, raw, .closes⟩ [] where
  tags := rfl
  closes := rfl
  raw := rfl
  place := rfl
  run waiting found := by simp
  openers := by simp
  closers := by simp
  closed := by simp
  divider := ⟨none, rfl, by simp, [], rfl⟩

end Scan

theorem rest_suffix_of_inside? {depth : Nat} {pieces : List (Piece Tag.Mark)} {inside : Inside}
    (found : inside? depth pieces = some inside) : inside.rest <:+ pieces := by
  fun_induction inside? depth pieces generalizing inside with
  | case1 => exact absurd found (by simp)
  | case4 =>
      cases found
      exact List.suffix_cons _ _
  | case2 _ _ _ ih | case3 _ _ _ _ ih | case5 _ _ _ ih | case6 _ _ ih | case7 _ _ _ ih =>
      obtain ⟨inner, here, rfl⟩ := Option.map_eq_some_iff.mp found
      exact (ih here).trans (List.suffix_cons _ _)

theorem exists_scan (start : Nat) (opened : List PlacedTag) {pieces : List (Piece Tag.Mark)}
    {inside : Inside} (solid : Solid pieces) (before : ∀ opener ∈ opened, opener.start < start)
    (found : inside? opened.length pieces = some inside) :
    ∃ passed closer inner, Scan start opened pieces inside passed closer inner := by
  induction pieces generalizing start opened inside with
  | nil => exact absurd found (by simp [inside?])
  | cons piece pieces ih =>
      cases piece with
      | plain char =>
          rw [inside?] at found
          obtain ⟨inner, here, rfl⟩ := Option.map_eq_some_iff.mp found
          obtain ⟨passed, closer, pairs, scan⟩ := ih (start + 1) opened solid.tail
            (fun opener member => Nat.lt_succ_of_lt (before opener member)) here
          exact ⟨passed, closer, pairs, scan.plain char⟩
      | token raw mark =>
          have long : raw ≠ [] := solid raw mark List.mem_cons_self
          have longer := List.length_pos_iff.mpr long
          have beforeToo : ∀ opener ∈ opened, opener.start < start + raw.length :=
            fun opener member => Nat.lt_add_right raw.length (before opener member)
          cases mark with
          | opens header =>
              rw [inside?] at found
              obtain ⟨inner, here, rfl⟩ := Option.map_eq_some_iff.mp found
              obtain ⟨passed, closer, pairs, scan⟩ :=
                ih (start + raw.length) (⟨start, raw, .opens header⟩ :: opened) solid.tail
                  (List.forall_mem_cons.mpr ⟨by show start < _; omega, beforeToo⟩) here
              exact ⟨_, closer, pairs, scan.opens⟩
          | closes =>
              cases opened with
              | nil =>
                  cases found
                  exact ⟨[], _, [], .finished start raw pieces⟩
              | cons opener opened =>
                  rw [List.length_cons, inside?] at found
                  obtain ⟨inner, here, rfl⟩ := Option.map_eq_some_iff.mp found
                  obtain ⟨passed, closer, pairs, scan⟩ :=
                    ih _ opened solid.tail (List.forall_mem_cons.mp beforeToo).2 here
                  exact ⟨_, closer, _, scan.closesInner long⟩
          | separates =>
              cases opened with
              | nil =>
                  rw [List.length_nil, inside?] at found
                  obtain ⟨inner, here, rfl⟩ := Option.map_eq_some_iff.mp found
                  obtain ⟨passed, closer, pairs, scan⟩ := ih _ _ solid.tail beforeToo here
                  exact ⟨_, closer, pairs, scan.divides⟩
              | cons opener opened =>
                  rw [List.length_cons, inside?] at found
                  obtain ⟨inner, here, rfl⟩ := Option.map_eq_some_iff.mp found
                  obtain ⟨passed, closer, pairs, scan⟩ := ih _ _ solid.tail beforeToo here
                  exact ⟨_, closer, pairs,
                    scan.separatesInner long (before opener List.mem_cons_self)⟩

theorem foldl_step_of_inside?_eq_none (start : Nat) (opened : List PlacedTag)
    {pieces : List (Piece Tag.Mark)} (unclosed : inside? opened.length pieces = none) :
    ∃ left inner, ∀ waiting,
      (among start pieces).foldl step ⟨opened ++ waiting, []⟩ = ⟨left ++ waiting, inner⟩ := by
  induction pieces generalizing start opened with
  | nil => exact ⟨opened, [], fun _ => rfl⟩
  | cons piece pieces ih =>
      cases piece with
      | plain char =>
          rw [inside?, Option.map_eq_none_iff] at unclosed
          exact ih (start + 1) opened unclosed
      | token raw mark =>
          cases mark with
          | opens header =>
              rw [inside?, Option.map_eq_none_iff] at unclosed
              obtain ⟨left, inner, run⟩ := ih (start + raw.length)
                (⟨start, raw, .opens header⟩ :: opened) unclosed
              refine ⟨left, inner, ?_⟩
              intro waiting
              rw [among, List.foldl_cons, step_opens rfl]
              exact run waiting
          | closes =>
              cases opened with
              | nil => exact absurd unclosed (by simp [inside?])
              | cons opener opened =>
                  rw [List.length_cons, inside?, Option.map_eq_none_iff] at unclosed
                  obtain ⟨left, inner, run⟩ := ih (start + raw.length) opened unclosed
                  refine ⟨left, ⟨opener, ⟨start, raw, .closes⟩⟩ :: inner, ?_⟩
                  intro waiting
                  rw [among, List.foldl_cons, List.cons_append, step_closes rfl, foldl_step, run]
                  rfl
          | separates =>
              have goesOn : inside? opened.length pieces = none := by
                cases opened with
                | nil => simpa [inside?] using unclosed
                | cons opener opened => simpa [inside?] using unclosed
              obtain ⟨left, inner, run⟩ := ih (start + raw.length) opened goesOn
              refine ⟨left, inner, ?_⟩
              intro waiting
              rw [among, List.foldl_cons, step_separates rfl]
              exact run waiting

end Block

end Stencil
