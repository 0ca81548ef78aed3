import Stencil.Proofs.Template.Balance
import Stencil.Template.Render

/-!
# Passes over a text made of parts

What a pass makes of a text, apart from the log, is put together from what it
makes of the parts.  A pass that is repeated until the text stays the same is
the pass repeated as often as it may be, since repeating it on a text that
stays the same changes nothing.
-/

namespace Stencil

theorem exists_of_bind_eq_ok {first : Except Fault α} {next : α → Except Fault β} {result : β}
    (ended : first >>= next = .ok result) :
    ∃ value, first = .ok value ∧ next value = .ok result := by
  cases first with
  | error fault => exact absurd ended (by simp [bind, Except.bind])
  | ok value => exact ⟨value, rfl, ended⟩

theorem exists_of_mapM_eq_ok {compute : α → Except Fault β} {list : List α} {results : List β}
    (ended : list.mapM compute = .ok results) {result : β} (member : result ∈ results) :
    ∃ source ∈ list, compute source = .ok result := by
  induction list generalizing results with
  | nil =>
      cases ended
      exact absurd member List.not_mem_nil
  | cons first later ih =>
      rw [List.mapM_cons] at ended
      obtain ⟨one, here, ended⟩ := exists_of_bind_eq_ok ended
      obtain ⟨rest, behind, ended⟩ := exists_of_bind_eq_ok ended
      cases ended
      rcases List.mem_cons.mp member with rfl | inside
      · exact ⟨first, List.mem_cons_self, here⟩
      · obtain ⟨source, among, found⟩ := ih behind inside
        exact ⟨source, List.mem_cons_of_mem first among, found⟩

theorem exists_error_bind {first : Except Fault α} {next : α → Except Fault β}
    (later : ∀ value, first = .ok value → ∃ fault, next value = .error fault) :
    ∃ fault, first >>= next = .error fault := by
  cases first with
  | error fault => exact ⟨fault, rfl⟩
  | ok value => exact later value rfl

/-- One text after the other, unless the first one fails. -/
def together (first later : Except Fault Text) : Except Fault Text := do
  return (← first) ++ (← later)

@[simp] theorem together_ok (first later : Text) :
    together (.ok first) (.ok later) = .ok (first ++ later) := rfl

@[simp] theorem ok_nil_together (later : Except Fault Text) : together (.ok []) later = later := by
  cases later <;> rfl

@[simp] theorem together_ok_nil (first : Except Fault Text) : together first (.ok []) = first := by
  cases first with
  | error fault => rfl
  | ok text =>
      rw [together_ok, List.append_nil]

theorem together_assoc (first second third : Except Fault Text) :
    together (together first second) third = together first (together second third) := by
  cases first with
  | error fault => rfl
  | ok text =>
      cases second with
      | error fault => rfl
      | ok more =>
          cases third with
          | error fault => rfl
          | ok rest => simp

/-- The texts of the members of a list, one after the other. -/
def joined (render : α → Except Fault Text) : List α → Except Fault Text
  | [] => .ok []
  | first :: later => together (render first) (joined render later)

theorem joined_append (render : α → Except Fault Text) (first later : List α) :
    joined render (first ++ later) = together (joined render first) (joined render later) := by
  induction first with
  | nil => simp [joined]
  | cons member first ih => rw [List.cons_append, joined, joined, ih, together_assoc]

theorem exists_error_joined {render : α → Except Fault Text} {list : List α} {member : α}
    (among : member ∈ list) (failed : ∃ fault, render member = .error fault) :
    ∃ fault, joined render list = .error fault := by
  induction list with
  | nil => exact absurd among List.not_mem_nil
  | cons first later ih =>
      rw [joined]
      rcases List.mem_cons.mp among with rfl | inside
      · obtain ⟨fault, failed⟩ := failed
        rw [failed]
        exact ⟨fault, rfl⟩
      · obtain ⟨fault, failed⟩ := ih inside
        rw [failed]
        exact exists_error_bind fun text _ => ⟨fault, rfl⟩

theorem Logged.outcome_concat (render : α → Logged Text) (list : List α) :
    (Logged.concat render list).outcome = joined (fun member => (render member).outcome) list := by
  induction list with
  | nil => rfl
  | cons first later ih =>
      simp only [Logged.concat, outcome_bind, outcome_pure, joined, together, ih]
      rfl

instance : LawfulMonad Logged := LawfulMonad.mk' Logged
  (fun computation => by
    obtain ⟨log, outcome⟩ := computation
    cases outcome with
    | ok value =>
        show Logged.mk (log ++ []) (.ok value) = _
        rw [List.append_nil]
    | error fault => rfl)
  (fun _ _ => rfl)
  (fun computation next later => by
    obtain ⟨log, outcome⟩ := computation
    cases outcome with
    | error fault => rfl
    | ok value =>
        show Logged.bind ⟨log ++ (next value).log, (next value).outcome⟩ later =
          ⟨log ++ (Logged.bind (next value) later).log, (Logged.bind (next value) later).outcome⟩
        unfold Logged.bind
        cases (next value).outcome with
        | ok value => simp
        | error fault => rfl)

/-- What the members of one list and then those of another give is put together. -/
theorem Logged.concat_append (render : α → Logged Text) (first later : List α) :
    Logged.concat render (first ++ later) = do
      let before ← Logged.concat render first
      let after ← Logged.concat render later
      return before ++ after := by
  induction first with
  | nil => simp only [Logged.concat, List.nil_append, pure_bind, bind_pure]
  | cons member first ih =>
      simp only [List.cons_append, Logged.concat, ih, bind_assoc, pure_bind, List.append_assoc]

theorem Logged.lift_ok_bind (value : α) (next : α → Logged β) :
    (Logged.lift (.ok value) >>= next) = next value := rfl

theorem Logged.fail_bind_after (log : List Notice) (value : α) (fault : Fault)
    (next : α → β → Logged γ) :
    (do
      let before ← Logged.mk log (.ok value)
      let after ← Logged.fail fault
      next before after) = ⟨log, .error fault⟩ := by
  show Logged.mk (log ++ []) _ = _
  rw [List.append_nil]
  rfl

/-- A computation writes what its parts write, and nothing after a failure. -/
theorem Logged.log_bind (first : Logged α) (next : α → Logged β) :
    (first >>= next).log =
      first.log ++ match first.outcome with
        | .ok value => (next value).log
        | .error _ => [] := by
  show (Logged.bind first next).log = _
  unfold Logged.bind
  cases first.outcome <;> simp

theorem Logged.log_bind_pure (first : Logged α) (next : α → β) :
    (first >>= fun value => pure (next value)).log = first.log := by
  rw [log_bind]
  cases first.outcome <;> exact List.append_nil first.log

/-- Each notice of a computation in parts is one of a part. -/
theorem Logged.mem_log_concat {render : α → Logged Text} {list : List α} {notice : Notice}
    (member : notice ∈ (Logged.concat render list).log) :
    ∃ part ∈ list, notice ∈ (render part).log := by
  induction list with
  | nil => exact absurd member (by simp [Logged.concat, pure, Logged.pure])
  | cons first later ih =>
      rw [Logged.concat, Logged.log_bind] at member
      rcases List.mem_append.mp member with here | there
      · exact ⟨first, List.mem_cons_self, here⟩
      · cases outcome : (render first).outcome with
        | error fault =>
            rw [outcome] at there
            exact absurd there List.not_mem_nil
        | ok text =>
            rw [outcome] at there
            dsimp only at there
            rw [Logged.log_bind_pure] at there
            obtain ⟨part, among, written⟩ := ih there
            exact ⟨part, List.mem_cons_of_mem first among, written⟩

namespace Layout

theorem outcome_weave (block : Block → Logged Text) (parts : List (Text × Block)) (tail : Text) :
    (weave pure block parts tail : Logged Text).outcome =
      weave pure (fun found => (block found).outcome) parts tail := by
  induction parts with
  | nil => rfl
  | cons part parts ih =>
      simp only [weave, Logged.outcome_bind, Logged.outcome_pure, ih]
      rfl

theorem outcome_replace (block : Block → Logged Text) (layout : Layout) :
    (layout.replace block : Logged Text).outcome =
      layout.replace fun found => (block found).outcome :=
  outcome_weave block layout.parts layout.tail

theorem exists_error_replace {block : Block → Except Fault Text} {layout : Layout}
    {part : Text × Block} (among : part ∈ layout.parts)
    (failed : ∃ fault, block part.2 = .error fault) :
    ∃ fault, layout.replace block = .error fault := by
  obtain ⟨parts, tail⟩ := layout
  show ∃ fault, weave pure block parts tail = .error fault
  induction parts with
  | nil => exact absurd among List.not_mem_nil
  | cons first parts ih =>
      rw [weave]
      apply exists_error_bind
      intro gap _
      rcases List.mem_cons.mp among with rfl | inside
      · obtain ⟨fault, failed⟩ := failed
        rw [failed]
        exact ⟨fault, rfl⟩
      · obtain ⟨fault, failed⟩ := ih inside
        rw [failed]
        exact exists_error_bind fun written _ => ⟨fault, rfl⟩

variable (block : Block → Except Fault Text)

theorem replace_push (raw : Text) (layout : Layout) :
    (layout.push raw).replace block = together (.ok raw) (layout.replace block) := by
  obtain ⟨parts, tail⟩ := layout
  cases parts with
  | nil => rfl
  | cons part parts =>
      obtain ⟨gap, found⟩ := part
      simp only [push, replace, weave, together, pure_bind, bind_assoc, List.append_assoc]
      rfl

theorem replace_addBlock (found : Block) (layout : Layout) :
    (layout.addBlock found).replace block = together (block found) (layout.replace block) := by
  simp only [addBlock, replace, weave, together, pure_bind, List.nil_append]

theorem mapGaps_push {onGap : Text → Text} {raw result : Text}
    (apart : ∀ rest, onGap (raw ++ rest) = result ++ onGap rest) (layout : Layout) :
    (layout.push raw).mapGaps onGap = result ++ layout.mapGaps onGap := by
  obtain ⟨parts, tail⟩ := layout
  cases parts with
  | nil => simp [push, mapGaps, apart]
  | cons part parts => simp [push, mapGaps, apart]

theorem mapGaps_addBlock {onGap : Text → Text} (empty : onGap [] = []) (found : Block)
    (layout : Layout) :
    (layout.addBlock found).mapGaps onGap = found.source ++ layout.mapGaps onGap := by
  simp [addBlock, mapGaps, empty]

end Layout

/-- What a pass over the outermost blocks makes of a text, whatever follows. -/
def Rewrites (marks : Matcher Tag.Mark) (render : Block → Except Fault Text) (text : Text)
    (result : Except Fault Text) : Prop :=
  ∀ rest, (Layout.ofText marks (text ++ rest)).replace render =
    together result ((Layout.ofText marks rest).replace render)

namespace Rewrites

variable {tags : BlockTags} {render : Block → Except Fault Text}

theorem whole {text : Text} {result : Except Fault Text}
    (rewrites : Rewrites tags.marks render text result) :
    (Layout.ofText tags.marks text).replace render = result := by
  have empty : (Layout.ofText tags.marks []).replace render = .ok [] := by
    simp [Layout.ofText, Matcher.pieces, Layout.ofPieces, Layout.replace, Layout.weave]
    rfl
  have all := rewrites []
  rwa [empty, together_ok_nil, List.append_nil] at all

theorem nil : Rewrites tags.marks render [] (.ok []) := by
  intro rest
  simp

theorem append {first second : Text} {one other : Except Fault Text}
    (left : Rewrites tags.marks render first one)
    (right : Rewrites tags.marks render second other) :
    Rewrites tags.marks render (first ++ second) (together one other) := by
  intro rest
  rw [List.append_assoc, left, right, together_assoc]

theorem inert {text : Text} (inert : Text.isInert text = true) :
    Rewrites tags.marks render text (.ok text) := by
  intro rest
  rw [Layout.ofText_plain_append tags (Matcher.pieces_inert_append tags.opens inert rest),
    Layout.replace_push]

theorem tagged (tags : BlockTags) (render : Block → Except Fault Text) {interior : Text}
    (free : Text.isBraceFree interior = true)
    (silent : tags.mark? interior = none) :
    Rewrites tags.marks render (Tag.tagged interior) (.ok (Tag.tagged interior)) := by
  intro rest
  rw [Layout.ofText_plain_append tags (tags.pieces_tagged_of_none free silent rest),
    Layout.replace_push]

theorem block (render : Block → Except Fault Text) (frame : tags.Frame) {body : Text}
    (balanced : Block.Balanced tags.marks body) :
    Rewrites tags.marks render (frame.block body).source (render (frame.block body)) := by
  intro rest
  rw [Layout.ofText_block tags frame balanced, Layout.replace_addBlock]

theorem dividedBlock (render : Block → Except Fault Text) (frame : tags.Frame)
    {body separator alternative : Text}
    (free : Text.isBraceFree separator = true)
    (separates : tags.mark? separator = some .separates)
    (balanced : Block.Balanced tags.marks body)
    (otherwise : Block.Balanced tags.marks alternative) :
    Rewrites tags.marks render (frame.dividedBlock body separator alternative).source
      (render (frame.dividedBlock body separator alternative)) := by
  intro rest
  rw [Layout.ofText_dividedBlock tags frame free separates balanced otherwise,
    Layout.replace_addBlock]

end Rewrites

/-- What filling in the gaps between the outermost blocks makes of a text,
whatever follows. -/
def MapsGaps (marks : Matcher Tag.Mark) (onGap : Text → Text) (text result : Text) : Prop :=
  ∀ rest, (Layout.ofText marks (text ++ rest)).mapGaps onGap =
    result ++ (Layout.ofText marks rest).mapGaps onGap

namespace MapsGaps

variable {tags : BlockTags} {onGap : Text → Text}

theorem whole (empty : onGap [] = []) {text result : Text}
    (maps : MapsGaps tags.marks onGap text result) :
    (Layout.ofText tags.marks text).mapGaps onGap = result := by
  have nothing : (Layout.ofText tags.marks []).mapGaps onGap = [] := by
    simp [Layout.ofText, Matcher.pieces, Layout.ofPieces, Layout.mapGaps, empty]
  have all := maps []
  rwa [nothing, List.append_nil, List.append_nil] at all

theorem nil : MapsGaps tags.marks onGap [] [] := by
  intro rest
  simp

theorem append {first second one other : Text} (left : MapsGaps tags.marks onGap first one)
    (right : MapsGaps tags.marks onGap second other) :
    MapsGaps tags.marks onGap (first ++ second) (one ++ other) := by
  intro rest
  rw [List.append_assoc, left, right, List.append_assoc]

theorem inert {text result : Text} (inert : Text.isInert text = true)
    (apart : ∀ rest, onGap (text ++ rest) = result ++ onGap rest) :
    MapsGaps tags.marks onGap text result := by
  intro rest
  rw [Layout.ofText_plain_append tags (Matcher.pieces_inert_append tags.opens inert rest),
    Layout.mapGaps_push apart]

theorem tagged (tags : BlockTags) {interior result : Text} (free : Text.isBraceFree interior = true)
    (silent : tags.mark? interior = none)
    (apart : ∀ rest, onGap (Tag.tagged interior ++ rest) = result ++ onGap rest) :
    MapsGaps tags.marks onGap (Tag.tagged interior) result := by
  intro rest
  rw [Layout.ofText_plain_append tags (tags.pieces_tagged_of_none free silent rest),
    Layout.mapGaps_push apart]

theorem block (empty : onGap [] = []) (frame : tags.Frame) {body : Text}
    (balanced : Block.Balanced tags.marks body) :
    MapsGaps tags.marks onGap (frame.block body).source (frame.block body).source := by
  intro rest
  rw [Layout.ofText_block tags frame balanced, Layout.mapGaps_addBlock empty]

end MapsGaps

/-- What the pass over expressions makes of a text, whatever follows. -/
def Interpolation.Fills (interpolation : Interpolation) (context : Entries) (text : Text)
    (result : Except Fault Text) : Prop :=
  ∀ rest, (interpolation.pass context (text ++ rest)).outcome =
    together result (interpolation.pass context rest).outcome

namespace Interpolation.Fills

variable {interpolation : Interpolation} {context : Entries}

theorem whole {text : Text} {result : Except Fault Text}
    (fills : interpolation.Fills context text result) :
    (interpolation.pass context text).outcome = result := by
  have empty : (interpolation.pass context []).outcome = .ok [] := by
    simp [Interpolation.pass, Matcher.pieces, Logged.concat]
  have all := fills []
  rwa [empty, together_ok_nil, List.append_nil] at all

theorem nil : interpolation.Fills context [] (.ok []) := by
  intro rest
  simp

theorem append {first second : Text} {one other : Except Fault Text}
    (left : interpolation.Fills context first one)
    (right : interpolation.Fills context second other) :
    interpolation.Fills context (first ++ second) (together one other) := by
  intro rest
  rw [List.append_assoc, left, right, together_assoc]

theorem joined_plain (text : Text) :
    joined (fun piece => (interpolation.fillPiece context piece).outcome) (text.map .plain) =
      .ok text := by
  induction text with
  | nil => rfl
  | cons char text ih =>
      rw [List.map_cons, joined, ih]
      rfl

theorem inert {text : Text} (inert : Text.isInert text = true) :
    interpolation.Fills context text (.ok text) := by
  intro rest
  rw [Interpolation.pass, Interpolation.pass, Logged.outcome_concat, Logged.outcome_concat,
    Matcher.pieces_inert_append Tag.startsOpen_expressionTag inert, joined_append, joined_plain]

theorem tagged (interpolation : Interpolation) (context : Entries) {interior : Text}
    (free : Text.isBraceFree interior = true)
    (nonempty : interior ≠ []) :
    interpolation.Fills context (Tag.tagged interior)
      (interpolation.fill context (Tag.tagged interior) (Tag.expression interior)).outcome := by
  intro rest
  rw [Interpolation.pass, Interpolation.pass, Logged.outcome_concat, Logged.outcome_concat,
    Tag.pieces_expressionTag_tagged free nonempty, joined]
  rfl

end Interpolation.Fills

/-- A pass a number of times, one after the other. -/
def repeated (pass : α → Except Fault α) : Nat → α → Except Fault α
  | 0, start => .ok start
  | count + 1, start => do repeated pass count (← pass start)

theorem repeated_of_fixed {pass : α → Except Fault α} {start : α} (fixed : pass start = .ok start)
    (count : Nat) : repeated pass count start = .ok start := by
  induction count with
  | zero => rfl
  | succ count ih =>
      rw [repeated, fixed]
      exact ih

/-- Passes until the text stays the same are all the passes allowed. -/
theorem outcome_settle (pass : Text → Logged Text) (cap : Nat) (text : Text) :
    (settle pass cap text).outcome.map Prod.fst =
      repeated (fun text => (pass text).outcome) cap text := by
  induction cap generalizing text with
  | zero => rfl
  | succ cap ih =>
      rw [settle, repeated, Logged.outcome_bind]
      cases next : (pass text).outcome with
      | error fault => rfl
      | ok next' =>
          show ((if next' = text then _ else _ : Logged (Text × Option Nat)).outcome).map Prod.fst =
            repeated _ cap next'
          by_cases same : next' = text
          · subst same
            rw [if_pos rfl, repeated_of_fixed next]
            rfl
          · rw [if_neg same, ← ih, Logged.outcome_bind]
            cases (settle pass cap next').outcome <;> rfl

end Stencil
