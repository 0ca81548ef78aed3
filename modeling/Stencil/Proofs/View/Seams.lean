import Stencil.Proofs.Engine.Session
import Stencil.Proofs.Template.Tagged
import Stencil.Proofs.Text.Words
import Stencil.Proofs.View.Expansion

/-!
# Where expanded texts meet

An expansion puts the stretches between the include tags of a text together
with comments and with the parts of other files.  No part holds an include tag
of its own: a tag of the result begins in one part and ends in a later one.
This does happen, as a file may end with half a tag and a comment quotes the
name that was asked for; but no tag can be left where none is begun.
-/

namespace Stencil

namespace Tag

/-- Whether a text has an include tag in it. -/
def HoldsInclude (text : Text) : Prop :=
  includeTag.tokens text ≠ []

theorem holdsInclude_iff {text : Text} :
    HoldsInclude text ↔
      ∃ before rest, text = before ++ rest ∧ (includeTag.read rest).isSome = true :=
  includeTag.tokens_ne_nil_iff text

theorem read_includeTag {text raw header rest : Text}
    (read : includeTag.read text = some (raw, header, rest)) :
    text = includeOpening ++ header ++ closing ++ rest ∧
      ¬ closing <:+: header ∧ isOneLine header = true ∧
      Text.cut? closing (header ++ closing ++ rest) = some (header, rest) := by
  simp only [includeTag, headed, Option.bind_eq_bind, Option.bind_eq_some_iff,
    Bool.false_eq_true, if_false, Bool.false_and] at read
  obtain ⟨body, after, ⟨found, later⟩, cut, read⟩ := read
  cases line : isOneLine found with
  | false => rw [line] at read; exact absurd read (by simp)
  | true =>
      rw [line, if_pos rfl] at read
      simp only [Option.some.injEq, Prod.mk.injEq] at read
      obtain ⟨_, rfl, rfl⟩ := read
      have whole := Text.eq_append_of_cut? cut
      rw [Text.after?_eq_some_iff, whole] at after
      refine ⟨by simpa using after, Text.not_infix_of_cut? (by decide) cut, line, ?_⟩
      rwa [whole] at cut

theorem isSome_read_append {text : Text} (reads : (includeTag.read text).isSome = true)
    (more : Text) : (includeTag.read (text ++ more)).isSome = true := by
  obtain ⟨⟨raw, header, rest⟩, read⟩ := Option.isSome_iff_exists.mp reads
  obtain ⟨rfl, _, line, cut⟩ := read_includeTag read
  have after : Text.after? includeOpening (includeOpening ++ header ++ closing ++ rest ++ more) =
      some (header ++ closing ++ rest ++ more) :=
    Text.after?_eq_some_iff.mpr (by simp)
  simp only [includeTag, headed, Option.bind_eq_bind, after, Option.bind_some,
    Bool.false_eq_true, if_false, Bool.false_and, Text.cut?_append cut more, line, if_true,
    Option.isSome_some]

theorem not_holdsInclude_of_not_infix {text : Text} (unclosed : ¬ closing <:+: text) :
    ¬ HoldsInclude text := by
  rw [holdsInclude_iff]
  rintro ⟨before, rest, rfl, reads⟩
  obtain ⟨⟨raw, header, later⟩, read⟩ := Option.isSome_iff_exists.mp reads
  obtain ⟨rfl, _⟩ := read_includeTag read
  exact unclosed ⟨before ++ includeOpening ++ header, later, by simp⟩

/-- Closing braces in a text with others around it are those of the text, if
the others have no braces. -/
theorem infix_of_infix_append {before text after : Text}
    (free : Text.isBraceFree before = true) (freeToo : Text.isBraceFree after = true)
    (inside : closing <:+: before ++ text ++ after) : closing <:+: text := by
  have notClosing : ∀ {char : Char}, Tag.isInner char = true → char ≠ '\x7d' :=
    fun inner => (Text.isInner_iff.mp inner).2
  have behind : closing <:+: text ++ after := by
    induction before with
    | nil => exact inside
    | cons char before ih =>
        rw [Text.isBraceFree_cons, Bool.and_eq_true] at free
        rw [List.cons_append, List.cons_append] at inside
        rcases List.infix_cons_iff.mp inside with ⟨rest, starts⟩ | further
        · injection starts with same
          exact absurd same.symm (notClosing free.1)
        · exact ih free.2 further
  clear inside
  induction text with
  | nil =>
      obtain ⟨start, rest, whole⟩ := behind
      have member : '\x7d' ∈ after := by
        rw [List.nil_append] at whole
        rw [← whole]
        simp [closing]
      exact absurd rfl (notClosing (Text.isInner_of_mem freeToo _ member))
  | cons char text ih =>
      rcases List.infix_cons_iff.mp behind with ⟨rest, starts⟩ | further
      · injection starts with same starts
        cases text with
        | nil =>
            have member : '\x7d' ∈ after := (show _ = after from starts) ▸ List.mem_cons_self
            exact absurd rfl (notClosing (Text.isInner_of_mem freeToo _ member))
        | cons next text =>
            injection starts with next
            subst same next
            exact ⟨[], text, rfl⟩
      · exact (ih further).trans (List.infix_cons (List.infix_refl text))

/-- Whether an include tag that begins in one of some parts ends in a later
one. -/
def Bridges (parts : List Text) : Prop :=
  ∃ earlier start rest later, parts = earlier ++ (start ++ rest) :: later ∧ rest ≠ [] ∧
    includeTag.read rest = none ∧ (includeTag.read (rest ++ later.flatten)).isSome = true

/-- Whether an include tag begins in a text, be it the whole of `includeOpening`
or what the text ends with of it. -/
def BeginsInclude (text : Text) : Prop :=
  ∃ start rest, text = start ++ rest ∧ rest ≠ [] ∧
    (includeOpening <+: rest ∨ rest <+: includeOpening)

theorem bridges_cons {part : Text} {parts : List Text} (bridges : Bridges parts) :
    Bridges (part :: parts) := by
  obtain ⟨earlier, start, rest, later, rfl, bridge⟩ := bridges
  exact ⟨part :: earlier, start, rest, later, rfl, bridge⟩

theorem not_holdsInclude_nil : ¬ HoldsInclude [] :=
  not_holdsInclude_of_not_infix (by decide)

/-- The include tags of parts without any are those that bridge them. -/
theorem holdsInclude_flatten_iff {parts : List Text}
    (clean : ∀ part ∈ parts, ¬ HoldsInclude part) :
    HoldsInclude parts.flatten ↔ Bridges parts := by
  constructor
  · intro holds
    induction parts with
    | nil => exact absurd holds not_holdsInclude_nil
    | cons part parts ih =>
        have later : HoldsInclude parts.flatten → Bridges (part :: parts) := fun inside =>
          bridges_cons (ih (fun other member => clean other (List.mem_cons_of_mem part member))
            inside)
        rw [List.flatten_cons, holdsInclude_iff] at holds
        obtain ⟨before, rest, whole, reads⟩ := holds
        rcases List.append_eq_append_iff.mp whole with ⟨between, _, behind⟩ | ⟨begun, split, rfl⟩
        · exact later (holdsInclude_iff.mpr ⟨between, rest, behind, reads⟩)
        · by_cases none : begun = []
          · rw [none, List.nil_append] at reads
            exact later (holdsInclude_iff.mpr ⟨[], parts.flatten, rfl, reads⟩)
          · refine ⟨[], before, begun, parts, by rw [split]; rfl, none, ?_, reads⟩
            rw [← Option.not_isSome_iff_eq_none]
            intro alone
            exact clean part List.mem_cons_self (holdsInclude_iff.mpr ⟨before, begun, split, alone⟩)
  · rintro ⟨earlier, start, rest, later, rfl, _, _, reads⟩
    exact holdsInclude_iff.mpr ⟨earlier.flatten ++ start, rest ++ later.flatten, by simp, reads⟩

theorem not_bridges {parts : List Text} (unbegun : ∀ part ∈ parts, ¬ BeginsInclude part) :
    ¬ Bridges parts := by
  rintro ⟨earlier, start, rest, later, rfl, nonempty, _, reads⟩
  obtain ⟨⟨raw, header, tail⟩, read⟩ := Option.isSome_iff_exists.mp reads
  obtain ⟨whole, _⟩ := read_includeTag read
  have opens : includeOpening <+: rest ++ later.flatten :=
    ⟨header ++ closing ++ tail, by simp [whole]⟩
  apply unbegun (start ++ rest) (by simp)
  exact ⟨start, rest, rfl, nonempty, List.prefix_or_prefix_of_prefix opens (List.prefix_append _ _)⟩

end Tag

namespace Views

/-- The stretches between the include tags of a text, one more than there are
tags, and between them the parts that `own` gives for the includes. -/
def between (own : Text → Except Fault (List Text)) : List (Piece Text) → Except Fault (List Text)
  | [] => .ok [[]]
  | .plain char :: pieces => (between own pieces).map (List.modifyHead (char :: ·))
  | .token _ header :: pieces => do
      let inside ← own (Text.trim header)
      let later ← between own pieces
      return [] :: inside ++ later

variable (views : Views) (tree : FileTree) (maxDepth : Nat)

/-- The parts that an expansion is put together from: the stretches between the
include tags of the files that are reached, and the comments. -/
def parts (stack : List Text) (directory : Location) (content : Text) :
    Except Fault (List Text) :=
  between
    (fun name =>
      match views.findInclude name directory with
      | .error (.viewNotFound _) => .ok [comment "Include file not found".toList name]
      | .error fault => .error fault
      | .ok location =>
          if _cut : IsCut maxDepth stack location then
            .ok [comment "Recursive include skipped".toList name]
          else
            match tree.finding location with
            | .barred fault => .error fault
            | .nothing => .ok [comment "Include file not found".toList name]
            | .unreadable _ => .ok [comment "Error processing include".toList name]
            | .file inner => parts (stack ++ [Location.text location]) location.dropLast inner)
    (Tag.includeTag.pieces content)
termination_by maxDepth - stack.length
decreasing_by
  have room : ¬ maxDepth ≤ stack.length := fun filled => _cut (.inl filled)
  rw [List.length_append, List.length_singleton]
  omega

variable {views tree maxDepth}

theorem between_eq_cons {own : Text → Except Fault (List Text)} {pieces : List (Piece Text)}
    {parts : List Text} (made : between own pieces = .ok parts) :
    ∃ first later, parts = first :: later := by
  induction pieces generalizing parts with
  | nil =>
      cases made
      exact ⟨[], [], rfl⟩
  | cons piece pieces ih =>
      cases piece with
      | plain char =>
          rw [between] at made
          cases rest : between own pieces with
          | error fault => rw [rest] at made; exact absurd made (by simp [Except.map])
          | ok others =>
              obtain ⟨first, later, rfl⟩ := ih rest
              rw [rest] at made
              cases made
              exact ⟨char :: first, later, rfl⟩
      | token raw header =>
          rw [between] at made
          cases inside : own (Text.trim header) with
          | error fault => rw [inside] at made; exact absurd made (by simp [bind, Except.bind])
          | ok others =>
              rw [inside] at made
              cases rest : between own pieces with
              | error fault =>
                  rw [rest] at made
                  exact absurd made (by simp [bind, Except.bind])
              | ok more =>
                  rw [rest] at made
                  cases made
                  exact ⟨[], others ++ more, rfl⟩

/-- The parts together are what the pieces become together. -/
theorem map_flatten_between (own : Text → Except Fault (List Text))
    (pieces : List (Piece Text)) :
    (between own pieces).map List.flatten =
      joined (written fun name => (own name).map List.flatten) pieces := by
  induction pieces with
  | nil => rfl
  | cons piece pieces ih =>
      rw [joined, ← ih]
      cases piece with
      | plain char =>
          rw [between, written]
          cases rest : between own pieces with
          | error fault => rfl
          | ok others =>
              obtain ⟨first, later, rfl⟩ := between_eq_cons rest
              rfl
      | token raw header =>
          rw [between, written]
          cases own (Text.trim header) with
          | error fault => rfl
          | ok inside =>
              cases between own pieces with
              | error fault => rfl
              | ok later => simp [Except.map, bind, Except.bind, together, pure, Except.pure]

/-- No part holds an include tag if none does that stands for an include. -/
theorem not_holdsInclude_of_mem_between {own : Text → Except Fault (List Text)} {content : Text}
    {parts : List Text} (made : between own (Tag.includeTag.pieces content) = .ok parts)
    (clean : ∀ raw header, .token raw header ∈ Tag.includeTag.pieces content →
      ∀ inside, own (Text.trim header) = .ok inside → ∀ part ∈ inside, ¬ Tag.HoldsInclude part) :
    ∀ part ∈ parts, ¬ Tag.HoldsInclude part := by
  -- The first stretch is what the text begins with, where no tag is read.
  suffices within : (∃ first later, parts = first :: later ∧ first <+: content) ∧
      ∀ part ∈ parts, ¬ Tag.HoldsInclude part from within.2
  fun_induction Matcher.pieces Tag.includeTag content generalizing parts with
  | case1 =>
      cases made
      refine ⟨⟨[], [], rfl, List.nil_prefix⟩, ?_⟩
      intro part member
      rw [List.mem_singleton.mp member]
      exact Tag.not_holdsInclude_nil
  | case2 char text raw header rest read ih =>
      rw [between] at made
      cases inside : own (Text.trim header) with
      | error fault => rw [inside] at made; exact absurd made (by simp [bind, Except.bind])
      | ok others =>
          rw [inside] at made
          cases behind : between own (Tag.includeTag.pieces rest) with
          | error fault => rw [behind] at made; exact absurd made (by simp [bind, Except.bind])
          | ok more =>
              rw [behind] at made
              cases made
              obtain ⟨_, cleanMore⟩ := ih behind fun raw header member =>
                clean raw header (List.mem_cons_of_mem _ member)
              refine ⟨⟨[], others ++ more, rfl, List.nil_prefix⟩, ?_⟩
              intro part member
              rcases List.mem_cons.mp member with rfl | member
              · exact Tag.not_holdsInclude_nil
              · rcases List.mem_append.mp member with here | later
                · exact clean raw header List.mem_cons_self others inside part here
                · exact cleanMore part later
  | case3 char text none ih =>
      rw [between] at made
      cases rest : between own (Tag.includeTag.pieces text) with
      | error fault => rw [rest] at made; exact absurd made (by simp [Except.map])
      | ok others =>
          rw [rest] at made
          cases made
          obtain ⟨⟨first, later, rfl, starts⟩, cleanOthers⟩ := ih rest fun raw header member =>
            clean raw header (List.mem_cons_of_mem _ member)
          refine ⟨⟨char :: first, later, rfl, List.cons_prefix_cons.mpr ⟨rfl, starts⟩⟩, ?_⟩
          intro part member
          rcases List.mem_cons.mp member with rfl | member
          · rw [Tag.holdsInclude_iff]
            rintro ⟨before, tail, whole, reads⟩
            cases before with
            | nil =>
                obtain ⟨more, rfl⟩ := starts
                rw [List.nil_append] at whole
                rw [← whole] at reads
                have longer := Tag.isSome_read_append reads more
                rw [List.cons_append, none] at longer
                exact absurd longer (by simp)
            | cons char before =>
                injection whole with _ whole
                exact cleanOthers first List.mem_cons_self
                  (Tag.holdsInclude_iff.mpr ⟨before, tail, whole, reads⟩)
          · exact cleanOthers part (List.mem_cons_of_mem first member)

/-- A comment that quotes the name in an include tag holds none, since the name
has no closing braces. -/
theorem not_holdsInclude_comment {reason content raw header : Text}
    (free : Text.isBraceFree reason = true)
    (member : .token raw header ∈ Tag.includeTag.pieces content) :
    ¬ Tag.HoldsInclude (comment reason (Text.trim header)) := by
  apply Tag.not_holdsInclude_of_not_infix
  intro inside
  obtain ⟨text, rest, read⟩ := Tag.includeTag.exists_read_of_mem_pieces member
  obtain ⟨_, unclosed, _⟩ := Tag.read_includeTag read
  refine unclosed (List.IsInfix.trans ?_ (Text.trim_infix header))
  refine Tag.infix_of_infix_append ?_ (by decide) inside
  rw [Text.isBraceFree_append, Text.isBraceFree_append, free]
  decide

/-- No part of an expansion holds an include tag. -/
theorem not_holdsInclude_of_mem_parts {stack : List Text} {directory : Location} {content : Text}
    {parts : List Text} (made : views.parts tree maxDepth stack directory content = .ok parts) :
    ∀ part ∈ parts, ¬ Tag.HoldsInclude part := by
  fun_induction Views.parts views tree maxDepth stack directory content generalizing parts with
  | case1 stack directory content ih =>
      apply not_holdsInclude_of_mem_between made
      intro raw header member inside stands
      have quoted : ∀ {reason : Text}, Text.isBraceFree reason = true →
          ∀ part ∈ [comment reason (Text.trim header)], ¬ Tag.HoldsInclude part := by
        intro reason free part among
        rw [List.mem_singleton.mp among]
        exact not_holdsInclude_comment free member
      split at stands
      · cases stands
        exact quoted (by decide)
      · exact absurd stands (by simp)
      · split at stands
        · cases stands
          exact quoted (by decide)
        · rename_i location _ uncut
          split at stands
          · exact absurd stands (by simp)
          · cases stands
            exact quoted (by decide)
          · cases stands
            exact quoted (by decide)
          · exact ih location uncut _ stands

theorem outcome_expand (stack : List Text) (directory : Location) (content : Text) :
    (views.expand tree maxDepth stack directory content).outcome =
      (views.parts tree maxDepth stack directory content).map List.flatten := by
  have single : ∀ text : Text,
      Except.map List.flatten (.ok [text] : Except Fault (List Text)) = .ok text := fun text => by
    simp [Except.map]
  fun_induction Views.parts views tree maxDepth stack directory content with
  | case1 stack directory content ih =>
      rw [map_flatten_between, expand_eq, outcome_expandPieces]
      apply joined_written_congr
      intro name _
      rw [become]
      cases found : views.findInclude name directory with
      | error fault =>
          cases fault with
          | viewNotFound view => exact (single _).symm
          | _ => rfl
      | ok location =>
          dsimp only
          by_cases cut : IsCut maxDepth stack location
          · rw [if_pos cut, dif_pos cut]
            exact (single _).symm
          · rw [if_neg cut, dif_neg cut, includeFile_eq]
            cases tree.finding location with
            | barred fault => rfl
            | nothing => exact (single _).symm
            | unreadable fault => exact (single _).symm
            | file inner => exact ih location cut inner

/-- Whether a text is put together from parts without include tags.  Its include
tags bridge the parts, and it has none if none begins in a part. -/
structure IsMadeOf (parts : List Text) (text : Text) : Prop where
  whole : text = parts.flatten
  clean : ∀ part ∈ parts, ¬ Tag.HoldsInclude part
  bridged : Tag.HoldsInclude text ↔ Tag.Bridges parts
  unbegun : (∀ part ∈ parts, ¬ Tag.BeginsInclude part) → ¬ Tag.HoldsInclude text

theorem isMadeOf_of_expand {stack : List Text} {directory : Location} {content text : Text}
    (expanded : (views.expand tree maxDepth stack directory content).outcome = .ok text) :
    ∃ parts, views.parts tree maxDepth stack directory content = .ok parts ∧
      IsMadeOf parts text := by
  rw [outcome_expand] at expanded
  cases made : views.parts tree maxDepth stack directory content with
  | error fault => rw [made] at expanded; exact absurd expanded (by simp [Except.map])
  | ok parts =>
      rw [made] at expanded
      cases expanded
      have clean := not_holdsInclude_of_mem_parts made
      have bridged := Tag.holdsInclude_flatten_iff clean
      exact ⟨parts, rfl, rfl, clean, bridged,
        fun unbegun holds => Tag.not_bridges unbegun (bridged.mp holds)⟩

end Views

namespace Session

variable {session : Session}

/-- Every body that is kept was put together from the files of its time. -/
theorem exists_parts_of_get? (fresh : session.engine.cache = []) {actions : List Action}
    {key body : Text} (kept : (session.run actions).engine.cache.get? key = some body) :
    ∃ before location content parts, before <+: actions ∧ Location.text location = key ∧
      (session.run before).tree.finding location = .file content ∧
      session.engine.views.parts (session.run before).tree session.engine.config.maxIncludeDepth
        [key] location.dropLast content = .ok parts ∧
      Views.IsMadeOf parts body := by
  obtain ⟨before, action, after, split, _, loads, _⟩ := (get?_run fresh actions key body).mp kept
  cases action with
  | render options data view =>
      obtain ⟨_, location, bytes, opened, rfl, loaded⟩ := loads
      obtain ⟨_, read⟩ := Engine.found_of_open? opened
      obtain ⟨cache, same⟩ := session.exists_cache_run before
      rw [same] at loaded
      cases decoded : FileTree.textOf bytes with
      | error fault =>
          rw [Engine.body, decoded] at loaded
          exact absurd loaded (by simp [bind, Except.bind])
      | ok content =>
          rw [Engine.body, decoded] at loaded
          obtain ⟨parts, made, isMade⟩ := Views.isMadeOf_of_expand loaded
          refine ⟨before, location, content, parts, ⟨_, split.symm⟩, rfl, ?_, made, isMade⟩
          rw [FileTree.finding, read]
          simp only [decoded]
  | write location content => exact loads.elim
  | delete location => exact loads.elim
  | renderText options data template => exact loads.elim
  | clearCache => exact loads.elim

/-- An include tag of an expanded text, also of a body that is kept, is one that
bridges the parts that the text was put together from. -/
theorem isMadeOf_bodies (fresh : session.engine.cache = []) (actions : List Action) :
    (∀ tree stack directory content text,
      (session.engine.views.expand tree session.engine.config.maxIncludeDepth stack directory
          content).outcome = .ok text →
        ∃ parts, session.engine.views.parts tree session.engine.config.maxIncludeDepth stack
            directory content = .ok parts ∧ Views.IsMadeOf parts text) ∧
    ∀ key body, (session.run actions).engine.cache.get? key = some body →
      ∃ before location content parts, before <+: actions ∧ Location.text location = key ∧
        (session.run before).tree.finding location = .file content ∧
        session.engine.views.parts (session.run before).tree
          session.engine.config.maxIncludeDepth [key] location.dropLast content = .ok parts ∧
        Views.IsMadeOf parts body :=
  ⟨fun _ _ _ _ _ => Views.isMadeOf_of_expand, fun _ _ => exists_parts_of_get? fresh⟩

/-- A view that asks for a file with a tag in its name. -/
def quoting : List Action :=
  [.write homePlace (Utf8.encode "{{include:{{include:x}}}}".toList),
    .render Options.default [] "home".toList]

def quoted : Text :=
  "<!-- Include file not found: \x7b\x7binclude:x -->\x7d\x7d".toList

/-- One file, which is empty. -/
def hollow : FileTree :=
  ⟨[(["views".toList, "e.html".toList], [])], [["views".toList]]⟩

/-- The name in a comment is an include tag together with what follows, and so
is what stands around an include of an empty file. -/
theorem bridges_quoted :
    (∃ parts, Tag.Bridges parts ∧ parts.flatten = quoted ∧
      (blank.run quoting).engine.cache.get? (Location.text homePlace) = some quoted) ∧
    ∃ parts, Tag.Bridges parts ∧ parts.flatten = "{{include:y}}".toList ∧
      blank.engine.views.parts hollow 32 [] ["views".toList] "{{inc{{include:e}}lude:y}}".toList =
        .ok parts := by
  have fresh : blank.engine.cache = [] := rfl
  obtain ⟨_, bodies⟩ := isMadeOf_bodies fresh quoting
  obtain ⟨expansions, _⟩ := isMadeOf_bodies fresh []
  constructor
  · have kept : (blank.run quoting).engine.cache.get? (Location.text homePlace) = some quoted := by
      decide +kernel
    obtain ⟨_, _, _, parts, _, _, _, _, made⟩ := bodies _ _ kept
    have holds : Tag.HoldsInclude quoted := by
      rw [Tag.HoldsInclude]
      decide +kernel
    exact ⟨parts, made.bridged.mp holds, made.whole.symm, kept⟩
  · have expanded : (blank.engine.views.expand hollow 32 [] ["views".toList]
        "{{inc{{include:e}}lude:y}}".toList).outcome = .ok "{{include:y}}".toList := by
      decide +kernel
    obtain ⟨parts, stands, made⟩ := expansions _ _ _ _ _ expanded
    have holds : Tag.HoldsInclude "{{include:y}}".toList := by
      rw [Tag.HoldsInclude]
      decide +kernel
    exact ⟨parts, made.bridged.mp holds, made.whole.symm, stands⟩

end Session

end Stencil
