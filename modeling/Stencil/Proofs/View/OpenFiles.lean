import Stencil.Proofs.View.Inclusion

/-!
# The files that are open in an expansion

An expansion goes from moment to moment.  At each one, some files are open, one
inside the other, and the next step writes a character, closes the innermost file,
or comes to an include tag: it opens the file of the tag or writes a comment.  No
file is open twice and no more are open than may be, since a file that would be is
left out; which one that is depends on the open files only, whatever is found at its
place.  Each file that is opened leaves less room for others, and so the steps come
to an end, which is the result of the expansion.
-/

namespace Stencil

namespace Views

/-- A file that is being expanded: the places of the files around it and its own, its
directory, and what is left of its text. -/
structure OpenFile where
  stack : List Text
  directory : Location
  rest : List (Piece Text)

/-- A moment of an expansion: the files that are open, the innermost one first, and
what has been written to the text and to the log. -/
structure Moment where
  files : List OpenFile
  text : Text
  log : List Notice

/-- What a step leads to. -/
inductive Onward where
  | goesOn (moment : Moment)
  | ends (result : Logged Text)

/-- What an include tag leads to. -/
inductive Included where
  | comments (notice : Notice) (comment : Text)
  | fails (fault : Fault)
  | opens (location : Location) (content : Text)
  deriving DecidableEq

section Steps

variable (views : Views) (tree : FileTree) (maxDepth : Nat)

/-- What an include of a name leads to in a file of a directory, while the files of a
stack are open. -/
def included (stack : List Text) (directory : Location) (name : Text) : Included :=
  match views.findInclude name directory with
  | .error (.viewNotFound _) =>
      .comments (.includeMissing name) (comment "Include file not found".toList name)
  | .error fault => .fails fault
  | .ok location =>
      if IsCut maxDepth stack location then
        .comments (.includeRecursive (Location.text location))
          (comment "Recursive include skipped".toList name)
      else
        match tree.finding location with
        | .barred fault => .fails fault
        | .nothing =>
            .comments (.includeMissing (Location.text location))
              (comment "Include file not found".toList name)
        | .unreadable fault =>
            .comments (.includeFailed name fault) (comment "Error processing include".toList name)
        | .file content => .opens location content

/-- One step of an expansion. -/
def next : Moment → Onward
  | ⟨[], text, log⟩ => .ends ⟨log, .ok text⟩
  | ⟨⟨_, _, []⟩ :: files, text, log⟩ => .goesOn ⟨files, text, log⟩
  | ⟨⟨stack, directory, .plain char :: rest⟩ :: files, text, log⟩ =>
      .goesOn ⟨⟨stack, directory, rest⟩ :: files, text ++ [char], log⟩
  | ⟨⟨stack, directory, .token _ header :: rest⟩ :: files, text, log⟩ =>
      match views.included tree maxDepth stack directory (Text.trim header) with
      | .comments notice comment =>
          .goesOn ⟨⟨stack, directory, rest⟩ :: files, text ++ comment, log ++ [notice]⟩
      | .fails fault => .ends ⟨log, .error fault⟩
      | .opens location content =>
          .goesOn ⟨⟨stack ++ [Location.text location], location.dropLast,
            Tag.includeTag.pieces content⟩ :: ⟨stack, directory, rest⟩ :: files, text, log⟩

/-- The first moment of the expansion of a text. -/
def started (stack : List Text) (directory : Location) (content : Text) : Moment :=
  ⟨[⟨stack, directory, Tag.includeTag.pieces content⟩], [], []⟩

/-- Whether some steps lead from one moment to another. -/
inductive Leads : Moment → Moment → Prop where
  | refl (moment : Moment) : Leads moment moment
  | head {moment between last : Moment}
      (step : views.next tree maxDepth moment = .goesOn between) (rest : Leads between last) :
      Leads moment last

/-- Whether the steps from a moment come to an end. -/
def Finishes (moment : Moment) : Prop :=
  ∃ last result, Leads views tree maxDepth moment last ∧
    views.next tree maxDepth last = .ends result

end Steps

variable {views : Views} {tree : FileTree} {maxDepth : Nat}

theorem become_eq (stack : List Text) (directory : Location) (name : Text) :
    views.become tree maxDepth stack directory name =
      match views.included tree maxDepth stack directory name with
      | .comments notice comment => ⟨[notice], .ok comment⟩
      | .fails fault => Logged.fail fault
      | .opens location content =>
          views.expand tree maxDepth (stack ++ [Location.text location]) location.dropLast
            content := by
  rw [become, included]
  rcases views.findInclude name directory with fault | location
  · cases fault <;> rfl
  · dsimp only
    split
    · rfl
    · rw [includeFile_eq]
      cases tree.finding location <;> rfl

/-- The comments for a name tell the reasons apart. -/
theorem comment_cancel {reason other name : Text}
    (same : comment reason name = comment other name) : reason = other := by
  have inner : ∀ before between after : Text, before ++ reason ++ between ++ name ++ after =
      before ++ other ++ between ++ name ++ after → reason = other := by
    intro before between after same
    exact List.append_cancel_left
      (List.append_cancel_right (List.append_cancel_right (List.append_cancel_right same)))
  exact inner _ _ _ same

/-- A file is left out as recursive exactly if its place is known and it is open or
too many files are, whatever is found at its place. -/
theorem included_eq_recursive_iff {stack : List Text} {directory : Location} {name : Text}
    {notice : Notice} :
    views.included tree maxDepth stack directory name =
        .comments notice (comment "Recursive include skipped".toList name) ↔
      ∃ location, views.findInclude name directory = .ok location ∧
        IsCut maxDepth stack location ∧ notice = .includeRecursive (Location.text location) := by
  have missing : "Include file not found".toList ≠ "Recursive include skipped".toList := by simp
  have unreadable : "Error processing include".toList ≠ "Recursive include skipped".toList := by
    simp
  have unknown : ∀ fault, views.findInclude name directory = .error fault →
      ¬ ∃ location, views.findInclude name directory = .ok location ∧
        IsCut maxDepth stack location ∧ notice = .includeRecursive (Location.text location) := by
    rintro fault known ⟨location, found, _⟩
    rw [known] at found
    exact nomatch found
  have uncut : ∀ found, views.findInclude name directory = .ok found →
      ¬ IsCut maxDepth stack found →
        ¬ ∃ location, views.findInclude name directory = .ok location ∧
          IsCut maxDepth stack location ∧ notice = .includeRecursive (Location.text location) := by
    rintro found known clear ⟨location, same, cut, _⟩
    rw [known] at same
    cases same
    exact clear cut
  fun_cases included views tree maxDepth stack directory name with
  | case1 _ known =>
      refine iff_of_false (fun same => ?_) (unknown _ known)
      injection same with _ same
      exact missing (comment_cancel same)
  | case2 fault _ known => exact iff_of_false (fun same => nomatch same) (unknown fault known)
  | case3 location known cut =>
      constructor
      · intro same
        injection same with same _
        exact ⟨location, known, cut, same.symm⟩
      · rintro ⟨_, same, _, rfl⟩
        rw [known] at same
        cases same
        rfl
  | case4 location known clear =>
      exact iff_of_false (fun same => nomatch same) (uncut location known clear)
  | case5 location known clear =>
      refine iff_of_false (fun same => ?_) (uncut location known clear)
      injection same with _ same
      exact missing (comment_cancel same)
  | case6 location known clear =>
      refine iff_of_false (fun same => ?_) (uncut location known clear)
      injection same with _ same
      exact unreadable (comment_cancel same)
  | case7 location known clear =>
      exact iff_of_false (fun same => nomatch same) (uncut location known clear)

/-- Only a file that is not open is opened, and only if there is room for it. -/
theorem not_isCut_of_included {stack : List Text} {directory : Location} {name : Text}
    {location : Location} {content : Text}
    (opened : views.included tree maxDepth stack directory name = .opens location content) :
    ¬ IsCut maxDepth stack location := by
  revert opened
  fun_cases included views tree maxDepth stack directory name with
  | case7 found _ clear =>
      intro opened
      injection opened with same _
      exact same ▸ clear
  | _ =>
      intro opened
      exact nomatch opened

section Tag

variable {stack : List Text} {directory : Location} {raw header : Text} {rest : List (Piece Text)}
  {files : List OpenFile} {text : Text} {log : List Notice}

theorem next_of_comments {notice : Notice} {comment : Text}
    (leads : views.included tree maxDepth stack directory (Text.trim header) =
      .comments notice comment) :
    views.next tree maxDepth ⟨⟨stack, directory, .token raw header :: rest⟩ :: files, text, log⟩ =
      .goesOn ⟨⟨stack, directory, rest⟩ :: files, text ++ comment, log ++ [notice]⟩ := by
  rw [next, leads]

theorem next_of_fails {fault : Fault}
    (leads : views.included tree maxDepth stack directory (Text.trim header) = .fails fault) :
    views.next tree maxDepth ⟨⟨stack, directory, .token raw header :: rest⟩ :: files, text, log⟩ =
      .ends ⟨log, .error fault⟩ := by
  rw [next, leads]

theorem next_of_opens {location : Location} {content : Text}
    (leads : views.included tree maxDepth stack directory (Text.trim header) =
      .opens location content) :
    views.next tree maxDepth ⟨⟨stack, directory, .token raw header :: rest⟩ :: files, text, log⟩ =
      .goesOn ⟨⟨stack ++ [Location.text location], location.dropLast,
        Tag.includeTag.pieces content⟩ :: ⟨stack, directory, rest⟩ :: files, text, log⟩ := by
  rw [next, leads]

theorem next_eq_comment_iff {comment : Text} {written : List Notice} :
    views.next tree maxDepth ⟨⟨stack, directory, .token raw header :: rest⟩ :: files, text, log⟩ =
        .goesOn ⟨⟨stack, directory, rest⟩ :: files, text ++ comment, written⟩ ↔
      ∃ notice, views.included tree maxDepth stack directory (Text.trim header) =
        .comments notice comment ∧ written = log ++ [notice] := by
  cases leads : views.included tree maxDepth stack directory (Text.trim header) with
  | comments notice found =>
      rw [next_of_comments leads]
      simp [eq_comm]
  | fails fault =>
      rw [next_of_fails leads]
      simp
  | opens location content =>
      rw [next_of_opens leads]
      simp

end Tag

namespace Leads

theorem trans {first second third : Moment} (left : Leads views tree maxDepth first second)
    (right : Leads views tree maxDepth second third) : Leads views tree maxDepth first third := by
  induction left with
  | refl => exact right
  | head step _ ih => exact .head step (ih right)

theorem keeps {first last : Moment} (leads : Leads views tree maxDepth first last)
    (good : Moment → Prop)
    (step : ∀ moment between, views.next tree maxDepth moment = .goesOn between → good moment →
      good between) (start : good first) : good last := by
  induction leads with
  | refl => exact start
  | head here _ ih => exact ih (step _ _ here start)

end Leads

theorem Finishes.before {moment between : Moment}
    (step : views.next tree maxDepth moment = .goesOn between)
    (finishes : Finishes views tree maxDepth between) : Finishes views tree maxDepth moment := by
  obtain ⟨last, result, leads, ends⟩ := finishes
  exact ⟨last, result, .head step leads, ends⟩

/-- An open file is closed in the end, if the steps behind it come to an end.  The
induction is on the room for further files, and within it on what is left of the
text. -/
theorem finishes_of_files (room : Nat) {stack : List Text} (bound : maxDepth - stack.length < room)
    (directory : Location) (rest : List (Piece Text)) {files : List OpenFile}
    (behind : ∀ text log, Finishes views tree maxDepth ⟨files, text, log⟩)
    (text : Text) (log : List Notice) :
    Finishes views tree maxDepth ⟨⟨stack, directory, rest⟩ :: files, text, log⟩ := by
  induction room generalizing stack directory rest files text log with
  | zero => exact absurd bound (Nat.not_lt_zero _)
  | succ room deeper =>
      induction rest generalizing text log with
      | nil => exact .before rfl (behind text log)
      | cons piece rest later =>
          cases piece with
          | plain char => exact .before rfl (later (text ++ [char]) log)
          | token raw header =>
              cases leads : views.included tree maxDepth stack directory (Text.trim header) with
              | comments notice comment =>
                  exact .before (next_of_comments leads) (later (text ++ comment) (log ++ [notice]))
              | fails fault =>
                  exact ⟨_, _, .refl _, next_of_fails leads⟩
              | opens location content =>
                  have shallow : ¬ maxDepth ≤ stack.length :=
                    fun full => not_isCut_of_included leads (.inl full)
                  have less : maxDepth - (stack ++ [Location.text location]).length < room := by
                    rw [List.length_append, List.length_singleton]
                    omega
                  exact .before (next_of_opens leads) (deeper less _ _ later text log)

/-- What a piece of a text becomes, if `inline` tells what the includes become. -/
def writtenOut (inline : Text → Logged Text) : Piece Text → Logged Text
  | .plain char => return [char]
  | .token _ header => inline (Text.trim header)

theorem expandPieces_eq (inline : Text → Logged Text) (content : Text) :
    expandPieces inline content =
      Logged.concat (writtenOut inline) (Tag.includeTag.pieces content) := rfl

section Awaited

variable (views tree maxDepth)

/-- What is left of an open file becomes a text. -/
def OpenFile.remaining (file : OpenFile) : Logged Text :=
  Logged.concat (writtenOut (views.become tree maxDepth file.stack file.directory)) file.rest

/-- What a moment leads up to: what has been written, and then what is left of the
open files, from the innermost to the outermost. -/
def Moment.awaited (moment : Moment) : Logged Text := do
  let before ← Logged.mk moment.log (.ok moment.text)
  let after ← Logged.concat (OpenFile.remaining views tree maxDepth) moment.files
  return before ++ after

/-- What a step leads up to. -/
def Onward.awaited : Onward → Logged Text
  | .goesOn moment => moment.awaited views tree maxDepth
  | .ends result => result

end Awaited

theorem OpenFile.remaining_cons (stack : List Text) (directory : Location) (piece : Piece Text)
    (rest : List (Piece Text)) :
    OpenFile.remaining views tree maxDepth ⟨stack, directory, piece :: rest⟩ = do
      let first ← writtenOut (views.become tree maxDepth stack directory) piece
      let later ← OpenFile.remaining views tree maxDepth ⟨stack, directory, rest⟩
      return first ++ later := rfl

theorem Moment.awaited_cons (stack : List Text) (directory : Location) (piece : Piece Text)
    (rest : List (Piece Text)) (files : List OpenFile) (text : Text) (log : List Notice) :
    Moment.awaited views tree maxDepth ⟨⟨stack, directory, piece :: rest⟩ :: files, text, log⟩ = do
      let before ← Logged.mk log (.ok text)
      let first ← writtenOut (views.become tree maxDepth stack directory) piece
      let after ← Logged.concat (OpenFile.remaining views tree maxDepth)
        (⟨stack, directory, rest⟩ :: files)
      return before ++ first ++ after := by
  simp only [Moment.awaited, Logged.concat, OpenFile.remaining_cons, bind_assoc, pure_bind,
    List.append_assoc]

/-- A step is one towards what its moment leads up to, and the last step is there. -/
theorem awaited_next (moment : Moment) :
    (views.next tree maxDepth moment).awaited views tree maxDepth =
      moment.awaited views tree maxDepth := by
  fun_cases next views tree maxDepth moment with
  | case1 text log =>
      show Logged.mk log (.ok text) = Logged.mk (log ++ []) (.ok (text ++ []))
      rw [List.append_nil, List.append_nil]
  | case2 stack directory files text log =>
      simp only [Onward.awaited, Moment.awaited, OpenFile.remaining, Logged.concat,
        pure_bind, List.nil_append, bind_pure]
  | case3 stack directory char rest files text log =>
      rw [Moment.awaited_cons, writtenOut]
      simp only [Onward.awaited, Moment.awaited, pure_bind]
      rfl
  | case4 stack directory raw header rest files text log notice comment leads =>
      have both : Logged.mk (log ++ [notice]) (.ok (text ++ comment)) = do
          let before ← Logged.mk log (.ok text)
          let first ← Logged.mk [notice] (.ok comment)
          return before ++ first := rfl
      rw [Moment.awaited_cons, writtenOut, become_eq, leads]
      simp only [Onward.awaited, Moment.awaited, both, bind_assoc, pure_bind]
  | case5 stack directory raw header rest files text log fault leads =>
      rw [Moment.awaited_cons, writtenOut, become_eq, leads]
      exact (Logged.fail_bind_after log text fault _).symm
  | case6 stack directory raw header rest files text log location content leads =>
      rw [Moment.awaited_cons, writtenOut, become_eq, leads]
      simp only [Onward.awaited, Moment.awaited, Logged.concat, OpenFile.remaining, expand_eq,
        expandPieces_eq, bind_assoc, pure_bind, List.append_assoc]

theorem awaited_started (stack : List Text) (directory : Location) (content : Text) :
    (started stack directory content).awaited views tree maxDepth =
      views.expand tree maxDepth stack directory content := by
  have begun : ∀ whole : Logged Text,
      (do
        let before ← Logged.mk [] (.ok [])
        let after ← whole
        return before ++ after) = whole := fun whole => bind_pure whole
  rw [started, Moment.awaited, begun, Logged.concat, expand_eq, expandPieces_eq]
  simp only [OpenFile.remaining, Logged.concat, pure_bind, List.append_nil, bind_pure]

/-- Whatever moment an expansion comes to, it ends with its own result. -/
theorem Leads.awaited_eq {first last : Moment} (leads : Leads views tree maxDepth first last) :
    last.awaited views tree maxDepth = first.awaited views tree maxDepth := by
  refine leads.keeps (fun moment => moment.awaited views tree maxDepth =
    first.awaited views tree maxDepth) ?_ rfl
  intro moment between step same
  rw [← same, ← awaited_next moment, step, Onward.awaited]

/-- The files that are open while a text is expanded, the innermost one first: each was
opened in the one after it, where it was not open and there was room for it. -/
inductive Nested (maxDepth : Nat) (stack : List Text) (directory : Location) :
    List OpenFile → Prop where
  | closed : Nested maxDepth stack directory []
  | outermost (rest : List (Piece Text)) :
      Nested maxDepth stack directory [⟨stack, directory, rest⟩]
  | inside {outer : OpenFile} {files : List OpenFile}
      (nested : Nested maxDepth stack directory (outer :: files)) {location : Location}
      (clear : ¬ IsCut maxDepth outer.stack location) (rest : List (Piece Text)) :
      Nested maxDepth stack directory
        (⟨outer.stack ++ [Location.text location], location.dropLast, rest⟩ :: outer :: files)

namespace Nested

variable {stack : List Text} {directory : Location}

theorem tail {file : OpenFile} {files : List OpenFile}
    (nested : Nested maxDepth stack directory (file :: files)) :
    Nested maxDepth stack directory files := by
  cases nested with
  | outermost => exact .closed
  | inside nested => exact nested

/-- Reading on in the innermost file closes and opens nothing. -/
theorem reads {stack' : List Text} {directory' : Location} {rest : List (Piece Text)}
    {files : List OpenFile}
    (nested : Nested maxDepth stack directory (⟨stack', directory', rest⟩ :: files))
    (later : List (Piece Text)) :
    Nested maxDepth stack directory (⟨stack', directory', later⟩ :: files) := by
  cases nested with
  | outermost => exact .outermost later
  | inside nested clear => exact .inside nested clear later

/-- No file is open twice, and no more are open than may be. -/
theorem nodup_and_length_le {files : List OpenFile}
    (nested : Nested maxDepth stack directory files) (distinct : stack.Nodup)
    (bound : stack.length ≤ maxDepth) {file : OpenFile} (member : file ∈ files) :
    file.stack.Nodup ∧ file.stack.length ≤ maxDepth := by
  induction nested generalizing file with
  | closed => exact absurd member List.not_mem_nil
  | outermost rest =>
      rw [List.mem_singleton.mp member]
      exact ⟨distinct, bound⟩
  | @inside outer files _ location clear rest ih =>
      rcases List.mem_cons.mp member with rfl | among
      · obtain ⟨shallow, fresh⟩ := not_or.mp clear
        have below := (ih List.mem_cons_self).1
        refine ⟨List.nodup_append.mpr ⟨below, List.pairwise_singleton .., ?_⟩, ?_⟩
        · rintro key inside _ last rfl
          exact fresh (List.mem_singleton.mp last ▸ inside)
        · rw [List.length_append, List.length_singleton]
          omega
      · exact ih among

/-- A step leaves the files nested. -/
theorem next {moment between : Moment}
    (step : views.next tree maxDepth moment = .goesOn between)
    (nested : Nested maxDepth stack directory moment.files) :
    Nested maxDepth stack directory between.files := by
  fun_cases Views.next views tree maxDepth moment with
  | case1 => exact nomatch step
  | case2 =>
      injection step with same
      exact same ▸ nested.tail
  | case3 stack' directory' char rest =>
      injection step with same
      exact same ▸ nested.reads rest
  | case4 stack' directory' raw header rest _ _ _ _ _ leads =>
      rw [next_of_comments leads] at step
      injection step with same
      exact same ▸ nested.reads rest
  | case5 _ _ _ _ _ _ _ _ _ leads =>
      rw [next_of_fails leads] at step
      exact nomatch step
  | case6 stack' directory' raw header rest _ _ _ _ _ leads =>
      rw [next_of_opens leads] at step
      injection step with same
      exact same ▸ .inside (nested.reads rest) (not_isCut_of_included leads) _

end Nested

/-- The steps of an expansion come to an end, whatever the files include, and end with
its result.  At every moment the open files are nested, none is open twice and no more
are open than may be.  A tag is replaced by the comment on recursion exactly if the
place of its file is known and the file is open or there is no room for it, whatever
is found at the place; and then one warning is written. -/
theorem expand_moments (views : Views) (tree : FileTree) (maxDepth : Nat) (stack : List Text)
    (directory : Location) (content : Text) (distinct : stack.Nodup)
    (bound : stack.length ≤ maxDepth) :
    (∃ last, Leads views tree maxDepth (started stack directory content) last ∧
      views.next tree maxDepth last =
        .ends (views.expand tree maxDepth stack directory content)) ∧
    ∀ files text log,
      Leads views tree maxDepth (started stack directory content) ⟨files, text, log⟩ →
        Nested maxDepth stack directory files ∧
        (∀ file ∈ files, file.stack.Nodup ∧ file.stack.length ≤ maxDepth) ∧
        ∀ current place raw header rest outer,
          files = ⟨current, place, .token raw header :: rest⟩ :: outer → ∀ written,
            (views.next tree maxDepth ⟨files, text, log⟩ =
                .goesOn ⟨⟨current, place, rest⟩ :: outer,
                  text ++ comment "Recursive include skipped".toList (Text.trim header), written⟩ ↔
              ∃ location, views.findInclude (Text.trim header) place = .ok location ∧
                (Location.text location ∈ current ∨ maxDepth ≤ current.length) ∧
                written = log ++ [.includeRecursive (Location.text location)]) := by
  constructor
  · have closed : ∀ text log, Finishes views tree maxDepth ⟨[], text, log⟩ :=
      fun text log => ⟨_, _, .refl _, rfl⟩
    have finishes : Finishes views tree maxDepth (started stack directory content) :=
      finishes_of_files (maxDepth - stack.length + 1) (Nat.lt_succ_self _) directory
        (Tag.includeTag.pieces content) closed [] []
    obtain ⟨last, result, leads, ends⟩ := finishes
    have same : result = views.expand tree maxDepth stack directory content := by
      rw [← awaited_started, ← leads.awaited_eq, ← awaited_next, ends]
      rfl
    exact ⟨last, leads, same ▸ ends⟩
  · intro files text log leads
    have nested : Nested maxDepth stack directory files :=
      leads.keeps (fun moment => Nested maxDepth stack directory moment.files)
        (fun _ _ step nested => nested.next step) (.outermost _)
    refine ⟨nested, fun file member => nested.nodup_and_length_le distinct bound member, ?_⟩
    rintro current place raw header rest outer rfl written
    rw [next_eq_comment_iff]
    simp only [included_eq_recursive_iff]
    constructor
    · rintro ⟨_, ⟨location, known, cut, rfl⟩, rfl⟩
      exact ⟨location, known, cut.symm, rfl⟩
    · rintro ⟨location, known, cut, rfl⟩
      exact ⟨_, ⟨location, known, cut.symm, rfl⟩, rfl⟩

/-- A file that includes itself. -/
def loopTree : FileTree :=
  ⟨[(["views".toList, "loop.html".toList], Utf8.encode "{{include:loop}}".toList)],
    [["views".toList]]⟩

def loopPlace : Location :=
  ["views".toList, "loop.html".toList]

/-- The moment when the file has been opened and nothing has been read of it. -/
def loopOpened : Moment :=
  ⟨[⟨[Location.text loopPlace], pages.root, [.token "{{include:loop}}".toList "loop".toList]⟩,
    ⟨[], pages.root, []⟩], [], []⟩

/-- The file is opened once.  Its tag is replaced by a comment, since the file is open,
and that is what the expansion gives. -/
theorem expand_loop :
    Leads pages loopTree 32 (started [] pages.root "{{include:loop}}".toList) loopOpened ∧
      pages.next loopTree 32 loopOpened =
        .goesOn ⟨[⟨[Location.text loopPlace], pages.root, []⟩, ⟨[], pages.root, []⟩],
          comment "Recursive include skipped".toList "loop".toList,
          [.includeRecursive (Location.text loopPlace)]⟩ ∧
      ∃ last, Leads pages loopTree 32 (started [] pages.root "{{include:loop}}".toList) last ∧
        pages.next loopTree 32 last =
          .ends ⟨[.includeRecursive (Location.text loopPlace)],
            .ok (comment "Recursive include skipped".toList "loop".toList)⟩ := by
  obtain ⟨finishes, moments⟩ := expand_moments pages loopTree 32 [] pages.root
    "{{include:loop}}".toList List.nodup_nil (Nat.zero_le 32)
  have read : Tag.includeTag.read "{{include:loop}}".toList =
      some ("{{include:loop}}".toList, "loop".toList, []) := by
    decide +kernel
  have pieces : Tag.includeTag.pieces "{{include:loop}}".toList =
      [.token "{{include:loop}}".toList "loop".toList] := by
    rw [Matcher.pieces_of_read_some read, Matcher.pieces]
  have opens : pages.included loopTree 32 [] pages.root (Text.trim "loop".toList) =
      .opens loopPlace "{{include:loop}}".toList := by
    decide +kernel
  have leads : Leads pages loopTree 32 (started [] pages.root "{{include:loop}}".toList)
      loopOpened := by
    refine .head ?_ (.refl _)
    rw [started, pieces, next_of_opens opens, pieces]
    rfl
  have known : pages.findInclude (Text.trim "loop".toList) pages.root = .ok loopPlace := by
    decide +kernel
  refine ⟨leads, ?_, ?_⟩
  · obtain ⟨_, _, tags⟩ := moments _ _ _ leads
    exact (tags _ _ _ _ _ _ rfl _).mpr ⟨loopPlace, known, .inl (List.mem_singleton_self _), rfl⟩
  · have log : (pages.expand loopTree 32 [] pages.root "{{include:loop}}".toList).log =
        [.includeRecursive (Location.text loopPlace)] := by
      decide +kernel
    have text : (pages.expand loopTree 32 [] pages.root "{{include:loop}}".toList).outcome =
        .ok (comment "Recursive include skipped".toList "loop".toList) := by
      decide +kernel
    rw [← log, ← text]
    exact finishes

end Views

end Stencil
