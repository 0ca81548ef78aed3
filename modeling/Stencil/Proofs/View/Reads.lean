import Stencil.Proofs.Engine.Session
import Stencil.Proofs.View.Expansion

/-!
# The files that are read

A render reads the file of the view and the files that its includes lead to,
and no other: the contents of all others make no difference.  A view and an
include by the name of a view are below the directory of the views.  An include
relative to the file it stands in is wherever its path leads, so that all files
that are read are below that directory exactly if those of relative includes
are.
-/

namespace Stencil

namespace FileTree

def HasFile (tree : FileTree) (location : Location) : Prop :=
  ∃ bytes, tree.read? location = .ok (some bytes)

/-- Whether two trees have the same directories and files, with the same content
of the files at some places. -/
structure AgreeOn (places : Location → Prop) (tree other : FileTree) : Prop where
  directories : ∀ location, other.isDirectory location = tree.isDirectory location
  files : ∀ location, (other.content? location).isSome = (tree.content? location).isSome
  contents : ∀ location, places location → other.content? location = tree.content? location

variable {places : Location → Prop} {tree other : FileTree}

theorem AgreeOn.mono {fewer : Location → Prop} (agree : AgreeOn places tree other)
    (less : ∀ location, fewer location → places location) : AgreeOn fewer tree other :=
  ⟨agree.directories, agree.files, fun location here => agree.contents location (less location here)⟩

/-- Trees that agree find the same, but for the content of a file at another
place. -/
theorem AgreeOn.find?_cases (agree : AgreeOn places tree other) (directory : Location)
    (names : List Text) :
    other.find? directory names = tree.find? directory names ∨
      ¬ places (directory ++ names) ∧ (∃ bytes, tree.find? directory names = .ok (some bytes)) ∧
        ∃ bytes, other.find? directory names = .ok (some bytes) := by
  induction names generalizing directory with
  | nil => exact .inl rfl
  | cons name names ih =>
      rw [find?, find?, agree.directories]
      cases tree.isDirectory directory with
      | false => exact .inl rfl
      | true =>
          cases isTooLong name with
          | true => exact .inl rfl
          | false =>
              by_cases last : names = []
              · subst last
                by_cases here : places (directory ++ [name])
                · left
                  simp [agree.contents _ here]
                · have same := agree.files (directory ++ [name])
                  cases content : tree.content? (directory ++ [name]) with
                  | none =>
                      rw [content] at same
                      have nothing : other.content? (directory ++ [name]) = none :=
                        Option.not_isSome_iff_eq_none.mp (by rw [same]; exact Bool.false_ne_true)
                      left
                      simp [nothing]
                  | some bytes =>
                      rw [content] at same
                      obtain ⟨others, contentThere⟩ := Option.isSome_iff_exists.mp same
                      right
                      exact ⟨here, ⟨bytes, by simp⟩, others, by simp [contentThere]⟩
              · have deeper := ih (directory ++ [name])
                rw [List.append_assoc] at deeper
                simpa [last] using deeper

theorem AgreeOn.read?_cases (agree : AgreeOn places tree other) (location : Location) :
    other.read? location = tree.read? location ∨
      ¬ places location ∧ tree.HasFile location ∧ other.HasFile location := by
  unfold HasFile read?
  cases isTooDeep location with
  | true => exact .inl rfl
  | false => exact agree.find?_cases [] location

/-- Trees that agree on the file at a place, if there is one, find the same. -/
theorem AgreeOn.finding_eq (agree : AgreeOn places tree other) {location : Location}
    (read : tree.HasFile location → places location) :
    other.finding location = tree.finding location := by
  unfold finding
  rcases agree.read?_cases location with same | ⟨apart, there, _⟩
  · rw [same]
  · exact absurd (read there) apart

end FileTree

theorem Logged.concat_congr {render other : α → Logged Text} {list : List α}
    (same : ∀ before part later, list = before ++ part :: later →
      (∃ text, joined (fun part => (render part).outcome) before = .ok text) →
        render part = other part) :
    Logged.concat render list = Logged.concat other list := by
  induction list with
  | nil => rfl
  | cons first later ih =>
      have here : render first = other first := same [] first later rfl ⟨[], rfl⟩
      rw [Logged.concat, Logged.concat, ← here]
      cases outcome : (render first).outcome with
      | error fault =>
          show Logged.bind _ _ = Logged.bind _ _
          rw [Logged.bind, Logged.bind, outcome]
      | ok text =>
          rw [ih]
          rintro before part rest rfl ⟨behind, reached⟩
          refine same (first :: before) part rest rfl ⟨text ++ behind, ?_⟩
          rw [joined, outcome, reached]
          rfl

namespace Views

variable (views : Views) (tree : FileTree) (maxDepth : Nat)

/-- Whether an expansion from left to right gets to an include. -/
def Reaches (stack : List Text) (directory : Location) (content name : Text) : Prop :=
  ∃ before raw header later,
    Tag.includeTag.pieces content = before ++ .token raw header :: later ∧
      Text.trim header = name ∧
      ∃ text, joined (written fun name =>
        (views.become tree maxDepth stack directory name).outcome) before = .ok text

/-- Whether an expansion reads the file at a place for an include in a file of
some directory. -/
inductive Opens : List Text → Location → Text → Location → Text → Location → Prop
  | here {stack : List Text} {directory : Location} {content name : Text} {location : Location}
      (reached : views.Reaches tree maxDepth stack directory content name)
      (found : views.findInclude name directory = .ok location)
      (uncut : ¬ IsCut maxDepth stack location) (there : tree.HasFile location) :
      Opens stack directory content directory name location
  | inside {stack : List Text} {directory : Location} {content name inner : Text}
      {location : Location} {below : Location} {met : Text} {place : Location}
      (reached : views.Reaches tree maxDepth stack directory content name)
      (leads : views.LeadsTo tree directory name location inner)
      (uncut : ¬ IsCut maxDepth stack location)
      (rest : Opens (stack ++ [Location.text location]) location.dropLast inner below met place) :
      Opens stack directory content below met place

variable {views tree maxDepth} {other : FileTree}

/-- Expansions are the same in trees that agree on the files that one of them
reads. -/
theorem expand_congr {stack : List Text} {directory : Location} {content : Text}
    (agree : FileTree.AgreeOn
      (fun place => ∃ below name,
        views.Opens tree maxDepth stack directory content below name place) tree other) :
    views.expand other maxDepth stack directory content =
      views.expand tree maxDepth stack directory content := by
  induction room : maxDepth - stack.length using Nat.strongRecOn
    generalizing stack directory content with
  | ind room ih =>
      rw [expand_eq, expand_eq, expandPieces, expandPieces]
      symm
      apply Logged.concat_congr
      intro before piece later split reached
      cases piece with
      | plain char => rfl
      | token raw header =>
          have reaches : views.Reaches tree maxDepth stack directory content (Text.trim header) := by
            obtain ⟨text, joins⟩ := reached
            refine ⟨before, raw, header, later, split, rfl, text, joins.symm ▸ ?_⟩
            congr 1
            funext piece
            cases piece <;> rfl
          dsimp only
          unfold become
          cases found : views.findInclude (Text.trim header) directory with
          | error fault => cases fault <;> rfl
          | ok location =>
              dsimp only
              by_cases cut : IsCut maxDepth stack location
              · rw [if_pos cut, if_pos cut]
              · rw [if_neg cut, if_neg cut, includeFile_eq, includeFile_eq]
                rw [agree.finding_eq fun there =>
                  ⟨directory, Text.trim header, .here reaches found cut there⟩]
                cases file : tree.finding location with
                | file inner =>
                    symm
                    refine ih _ ?_ (agree.mono ?_) rfl
                    · have shallow : ¬ maxDepth ≤ stack.length := fun filled => cut (.inl filled)
                      rw [← room, List.length_append, List.length_singleton]
                      omega
                    · rintro place ⟨below, name, opens⟩
                      exact ⟨below, name, .inside reaches ⟨found, file⟩ cut opens⟩
                | _ => rfl

/-- An include by the name of a view is of a file below the directory of the
views. -/
theorem Opens.exists_below {stack : List Text} {directory : Location} {content : Text}
    {below : Location} {name : Text} {place : Location}
    (opens : views.Opens tree maxDepth stack directory content below name place)
    (absolute : isRelative name = false) : ∃ rest, place = views.root ++ rest := by
  induction opens with
  | here _ found _ _ =>
      rw [findInclude, absolute, if_neg Bool.false_ne_true] at found
      obtain ⟨rest, same, _⟩ := views.exists_below found
      exact ⟨rest, same⟩
  | inside _ _ _ _ ih => exact ih absolute

/-- How far below a directory some parts lead from some levels below it, if
they do not lead above it. -/
def depthAfter? : Nat → List Text → Option Nat
  | depth, [] => some depth
  | depth, part :: parts =>
      if part = ['.', '.'] then if depth = 0 then none else depthAfter? (depth - 1) parts
      else depthAfter? (depth + 1) parts

theorem exists_follow_below (root : Location) {rest : Location} {parts : List Text} {depth : Nat}
    (stays : depthAfter? rest.length parts = some depth) :
    ∃ further : Location, further.length = depth ∧
      Location.follow (root ++ rest) parts = root ++ further := by
  induction parts generalizing rest with
  | nil => exact ⟨rest, by simpa [depthAfter?] using stays, rfl⟩
  | cons part parts ih =>
      rw [Location.follow]
      by_cases up : part = ['.', '.']
      · rw [depthAfter?, if_pos up] at stays
        rw [if_pos up]
        cases rest using List.reverseRecOn with
        | nil => exact absurd stays (by simp)
        | append_singleton rest last =>
            rw [← List.append_assoc, List.dropLast_concat]
            exact ih (by simpa using stays)
      · rw [depthAfter?, if_neg up] at stays
        rw [if_neg up, List.append_assoc]
        exact ih (by simpa using stays)

theorem isAbsolute_of_isRelative {name : Text} (relative : isRelative name = true) :
    (Path.ofText name).isAbsolute = false := by
  have dotted : ∃ rest, name = '.' :: rest := by
    rw [isRelative, Bool.or_eq_true, Text.startsWith, Text.startsWith, Option.isSome_iff_exists,
      Option.isSome_iff_exists] at relative
    rcases relative with ⟨rest, after⟩ | ⟨rest, after⟩
    · exact ⟨_, Text.after?_eq_some_iff.mp after⟩
    · exact ⟨_, Text.after?_eq_some_iff.mp after⟩
  obtain ⟨rest, rfl⟩ := dotted
  simp [Path.isAbsolute, Path.ofText, Path.splitRoot]

theorem withExtension_concat {directory place : Location} {name : Text}
    (extended : views.withExtension (directory ++ [name]) = .ok place) :
    ∃ last, place = directory ++ [last] := by
  rw [withExtension, List.getLast?_concat, List.dropLast_concat] at extended
  dsimp only at extended
  split at extended
  · cases extended
    exact ⟨name, rfl⟩
  · split at extended
    · cases extended
      exact ⟨_, rfl⟩
    · exact absurd extended (by simp)

/-- An include relative to a file below the directory of the views is of one
below it too, if its path neither leads above that directory nor ends there. -/
theorem exists_below_of_isRelative {name : Text} (relative : isRelative name = true)
    {rest place : Location} {depth : Nat}
    (stays : depthAfter? rest.length (Path.ofText name).parts = some (depth + 1))
    (found : views.findInclude name (views.root ++ rest) = .ok place) :
    ∃ further, place = views.root ++ further ∧ further.length = depth + 1 := by
  obtain ⟨further, length, follows⟩ := exists_follow_below views.root stays
  rw [findInclude, if_pos relative, locate] at found
  split at found
  · exact absurd found (by simp [bind, Except.bind])
  · have extended : views.withExtension (views.root ++ further) = .ok place := by
      rw [← follows]
      rw [Location.ofPath, isAbsolute_of_isRelative relative] at found
      exact found
    cases further using List.reverseRecOn with
    | nil => exact absurd length (by simp)
    | append_singleton init last =>
        rw [← List.append_assoc] at extended
        obtain ⟨name, rfl⟩ := withExtension_concat extended
        exact ⟨init ++ [name], List.append_assoc _ _ _, by simpa using length⟩

end Views

namespace Engine

variable (engine : Engine) (tree : FileTree) (options : Options)

/-- Whether a render of a view does not take the body from the cache, but opens
the file of the view at a place. -/
def OpensView (view : Text) (location : Location) (bytes : Bytes) : Prop :=
  engine.open? tree view = .ok (location, bytes) ∧
    (engine.usesCache options = true → engine.cache.get? (Location.text location) = none)

/-- Whether a render of a view reads the file at a place for an include in a
file of some directory. -/
def OpensInclude (view : Text) (below : Location) (name : Text) (place : Location) : Prop :=
  ∃ location bytes content, engine.OpensView tree options view location bytes ∧
    FileTree.textOf bytes = .ok content ∧
    engine.views.Opens tree engine.config.maxIncludeDepth [Location.text location]
      location.dropLast content below name place

/-- Whether a render of a view reads the file at a place. -/
def Reads (view : Text) (place : Location) : Prop :=
  (∃ bytes, engine.OpensView tree options view place bytes) ∨
    ∃ below name, engine.OpensInclude tree options view below name place

variable {engine tree options} {view : Text}

/-- A file that is opened is read, unless the body of the view is kept. -/
theorem reads_or_kept {location : Location} {bytes : Bytes}
    (opened : engine.open? tree view = .ok (location, bytes)) :
    engine.OpensView tree options view location bytes ∨
      ∃ kept, (if engine.usesCache options then engine.cache.get? (Location.text location)
        else none) = some kept := by
  cases uses : engine.usesCache options with
  | false => exact .inl ⟨opened, fun used => absurd used (by rw [uses]; decide)⟩
  | true =>
      cases found : engine.cache.get? (Location.text location) with
      | none => exact .inl ⟨opened, fun _ => found⟩
      | some kept => exact .inr ⟨kept, rfl⟩

theorem load_congr {other : FileTree} {location : Location} {bytes : Bytes}
    (agree : FileTree.AgreeOn (engine.Reads tree options view) tree other)
    (opens : engine.OpensView tree options view location bytes) :
    engine.load other options view location bytes =
      engine.load tree options view location bytes := by
  unfold load
  cases decoded : FileTree.textOf bytes with
  | error fault => rfl
  | ok content =>
      rw [Logged.lift_ok_bind, Logged.lift_ok_bind, Views.expand_congr]
      apply agree.mono
      rintro place ⟨below, name, includes⟩
      exact .inr ⟨below, name, location, bytes, content, opens, decoded, includes⟩

/-- A render is the same in trees that agree on the files that it reads. -/
theorem render_congr {other : FileTree} (data : Entries)
    (agree : FileTree.AgreeOn (engine.Reads tree options view) tree other) :
    engine.render other options data view = engine.render tree options data view := by
  unfold render
  cases found : engine.views.find view with
  | error fault =>
      have failed : ∀ tree, engine.open? tree view = .error fault := fun tree => by
        rw [open?, found]
        rfl
      rw [failed, failed]
  | ok location =>
      have opened : ∀ {tree : FileTree} {bytes : Bytes},
          tree.read? location = .ok (some bytes) →
            engine.open? tree view = .ok (location, bytes) := by
        intro tree bytes read
        rw [open?, found]
        show (tree.read? location >>= _) = _
        rw [read]
        rfl
      rcases agree.read?_cases location with same | ⟨unread, ⟨bytes, read⟩, others, readOther⟩
      · have sameFile : engine.open? other view = engine.open? tree view := by
          rw [open?, open?, found]
          show (other.read? location >>= _) = (tree.read? location >>= _)
          rw [same]
        rw [sameFile]
        cases started : engine.open? tree view with
        | error fault => rfl
        | ok file =>
            obtain ⟨place, bytes⟩ := file
            rcases reads_or_kept started with opens | ⟨kept, cached⟩
            · dsimp only
              rw [load_congr agree opens]
            · dsimp only
              rw [cached]
      · rw [opened read, opened readOther]
        rcases reads_or_kept (opened read) with opens | ⟨kept, cached⟩
        · exact absurd (.inl ⟨bytes, opens⟩) unread
        · dsimp only
          rw [cached]

/-- A name that leads nowhere below the directory of the views is not found. -/
theorem find_eq_viewNotFound {views : Views} {name : Text} (noNul : ¬ views.HasNul name)
    (elsewhere : views.segments name = [] ∨
      ∀ rest, Location.ofPath [] (views.path name) ≠ views.root ++ rest) :
    views.find name = .error (.viewNotFound name) := by
  rcases views.find_cases name with ⟨missing, _⟩ | ⟨_, hasNul⟩ | ⟨rest, found, _, leads⟩
  · exact missing
  · exact absurd hasNul noNul
  · rcases elsewhere with unnamed | apart
    · rw [Views.find]
      exact if_pos unnamed
    · exact absurd leads (apart rest)

/-- All files that a render reads are below the directory of the views exactly
if those of relative includes are, and these are if their paths do not lead out
of it.  Nothing but the files that are read makes a difference.  A name of a
view that leads elsewhere is not found. -/
theorem render_reads (engine : Engine) (tree : FileTree) (options : Options) (data : Entries)
    (view : Text) :
    ((∀ place, engine.Reads tree options view place → engine.viewsRoot <+: place) ↔
      ∀ below name place, engine.OpensInclude tree options view below name place →
        Views.isRelative name = true → engine.viewsRoot <+: place) ∧
    (∀ rest name depth place, Views.isRelative name = true →
      Views.depthAfter? rest.length (Path.ofText name).parts = some (depth + 1) →
        engine.views.findInclude name (engine.viewsRoot ++ rest) = .ok place →
          engine.viewsRoot <+: place) ∧
    (∀ other, FileTree.AgreeOn (engine.Reads tree options view) tree other →
      engine.render other options data view = engine.render tree options data view) ∧
    ∀ name, ¬ engine.views.HasNul name →
      (engine.views.segments name = [] ∨
        ∀ rest, Location.ofPath [] (engine.views.path name) ≠ engine.viewsRoot ++ rest) →
          engine.render tree options data name = (engine, Logged.fail (.viewNotFound name)) ∧
            ∀ stack directory, Views.isRelative name = false →
              engine.views.become tree engine.config.maxIncludeDepth stack directory name =
                Views.includeMissing name name := by
  refine ⟨⟨?_, ?_⟩, ?_, fun other => render_congr data, ?_⟩
  · intro inside below name place opens _
    exact inside place (.inr ⟨below, name, opens⟩)
  · rintro inside place (⟨bytes, opened, _⟩ | ⟨below, name, opens⟩)
    · obtain ⟨rest, rfl, _⟩ := engine.views.exists_below (found_of_open? opened).1
      exact List.prefix_append _ rest
    · cases relative : Views.isRelative name with
      | true => exact inside below name place opens relative
      | false =>
          obtain ⟨_, _, _, _, _, includes⟩ := opens
          obtain ⟨rest, rfl⟩ := includes.exists_below relative
          exact List.prefix_append _ rest
  · intro rest name depth place relative stays found
    obtain ⟨further, rfl, _⟩ := Views.exists_below_of_isRelative relative stays found
    exact List.prefix_append _ further
  · intro name noNul elsewhere
    have missing := find_eq_viewNotFound noNul elsewhere
    constructor
    · apply render_of_open?_eq_error
      rw [open?, missing]
      rfl
    · intro stack directory absolute
      rw [Views.become, Views.findInclude, absolute, if_neg Bool.false_ne_true, missing]

/-- A view that includes a file next to the directory of the views. -/
def leaking : FileTree :=
  ⟨[(["views".toList, "home.html".toList], Utf8.encode "{{include:../secret}}".toList),
    (["secret.html".toList], Utf8.encode "S".toList)], [["views".toList]]⟩

/-- The file is read although the directory of the views is elsewhere, while the
name of a view cannot lead to it. -/
theorem reads_leaking :
    (Session.blank.engine.render leaking Options.default [] "home".toList).2.outcome =
        .ok "S".toList ∧
      (¬ ∀ place, Session.blank.engine.Reads leaking Options.default "home".toList place →
        Session.blank.engine.viewsRoot <+: place) ∧
      Session.blank.engine.render leaking Options.default [] "../secret".toList =
        (Session.blank.engine, Logged.fail (.viewNotFound "../secret".toList)) := by
  obtain ⟨below, _, _, missing⟩ := render_reads Session.blank.engine leaking Options.default []
    "home".toList
  have read : Tag.includeTag.read "{{include:../secret}}".toList =
      some ("{{include:../secret}}".toList, "../secret".toList, []) := by
    decide +kernel
  have pieces : Tag.includeTag.pieces "{{include:../secret}}".toList =
      [] ++ .token "{{include:../secret}}".toList "../secret".toList :: [] := by
    rw [Matcher.pieces_of_read_some read, Matcher.pieces]
    rfl
  have opens : Session.blank.engine.OpensInclude leaking Options.default "home".toList
      ["views".toList] "../secret".toList ["secret.html".toList] := by
    refine ⟨Session.homePlace, Utf8.encode "{{include:../secret}}".toList,
      "{{include:../secret}}".toList, ⟨?_, fun _ => rfl⟩, ?_, ?_⟩
    · decide +kernel
    · decide +kernel
    · refine .here ⟨[], _, _, [], pieces, ?_, [], rfl⟩ ?_ ?_ ⟨Utf8.encode "S".toList, ?_⟩ <;>
        decide +kernel
  refine ⟨by decide +kernel, fun inside => ?_, (missing _ ?_ (.inr fun rest same => ?_)).1⟩
  · have confined := below.mp inside _ _ _ opens (by decide)
    exact absurd confined (by decide)
  · unfold Views.HasNul
    decide +kernel
  · have place : Location.ofPath [] (Session.blank.engine.views.path "../secret".toList) =
        ["secret.html".toList] := by
      decide +kernel
    rw [place] at same
    injection same with first
    exact absurd first (by decide)

end Engine

end Stencil
