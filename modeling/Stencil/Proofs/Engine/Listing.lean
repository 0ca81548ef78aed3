import Mathlib.Data.List.Nodup
import Stencil.Command.Run
import Stencil.Proofs.View.Naming

/-!
# Lists of views

A list of views is read back through their names: the names say which views
exist, and the rows of a list are made of the files that are found under them.
A list is right about every view if the name of each listed file spells the way
to it; a file with a dot in its stem, or without one, is listed under the name of
another place.
-/

namespace Stencil

/-- Whether a listed file is found under its name: the way to it does not lead up,
and the name spells it. -/
def Views.IsReadable (views : Views) (names : List Text) : Prop :=
  ['.', '.'] ∉ names ∧ ∃ segments, views.Spells segments names

theorem exists_of_mapM_eq_error {compute : α → Except Fault β} {list : List α} {fault : Fault}
    (failed : list.mapM compute = .error fault) : ∃ member ∈ list, compute member = .error fault := by
  induction list with
  | nil => exact absurd failed (by simp [pure, Except.pure])
  | cons first later ih =>
      rw [List.mapM_cons] at failed
      cases here : compute first with
      | error other =>
          rw [here] at failed
          injection failed with same
          exact ⟨first, List.mem_cons_self, by rw [here, same]⟩
      | ok result =>
          rw [here] at failed
          cases rest : later.mapM compute with
          | error other =>
              have same : other = fault := by
                rw [rest] at failed
                injection failed
              obtain ⟨member, inside, there⟩ := ih (by rw [rest, same])
              exact ⟨member, List.mem_cons_of_mem first inside, there⟩
          | ok results =>
              rw [rest] at failed
              exact absurd failed (by simp [bind, Except.bind, pure, Except.pure])

namespace Engine

variable {engine : Engine} {tree : FileTree}

theorem viewExists_of_find {view : Text} {location : Location} {bytes : Bytes}
    (found : engine.views.find view = .ok location)
    (read : tree.read? location = .ok (some bytes)) : engine.viewExists tree view = .ok true := by
  rw [viewExists, found]
  dsimp only
  rw [read]
  rfl

theorem row_of_find {view : Text} {names : List Text} {bytes : Bytes} (base : Location)
    (found : engine.views.find view = .ok (engine.views.root ++ names))
    (read : tree.read? (engine.views.root ++ names) = .ok (some bytes)) :
    Command.row ⟨engine, tree, base⟩ view = do
      let text ← FileTree.textOf bytes
      return [view, Text.join ['/'] names, Command.verdict (Check.messages text).length] := by
  have below : Location.within? engine.viewsRoot (engine.views.root ++ names) = some names :=
    Location.within?_eq_some_iff.mpr rfl
  simp only [Command.row, found, read, below, bind, Except.bind, Option.getD_some]

theorem textOf_eq_error {bytes : Bytes} {fault : Fault}
    (failed : FileTree.textOf bytes = .error fault) : ∃ problem, fault = .encoding problem := by
  rw [FileTree.textOf] at failed
  split at failed
  · exact absurd failed (by simp)
  · next problem _ =>
      injection failed with same
      exact ⟨problem, same.symm⟩

/-- A row of a view fails only if its file is no text. -/
theorem exists_encoding_of_row {bytes : Bytes} {cells : Text → List Text} {fault : Fault}
    (failed : (do
      let text ← FileTree.textOf bytes
      return cells text) = .error fault) : ∃ problem, fault = .encoding problem := by
  cases decoded : FileTree.textOf bytes with
  | ok text =>
      rw [decoded] at failed
      exact absurd failed (by simp [bind, Except.bind, pure, Except.pure])
  | error other =>
      rw [decoded] at failed
      injection failed with same
      rw [← same]
      exact textOf_eq_error decoded

section Readable

variable (root : ∀ part ∈ engine.views.root, Path.IsEntry part) (sound : tree.IsSound)
  {names : List Text} (member : names ∈ engine.views.files tree)
  (readable : engine.views.IsReadable names)

include root sound member readable

theorem find_nameOf_of_isReadable :
    engine.views.find (engine.views.nameOf names) = .ok (engine.views.root ++ names) := by
  obtain ⟨down, segments, spells⟩ := readable
  exact spells.find_nameOf root (Views.entries_of_mem_files sound member down)

omit root in
theorem exists_read_of_isReadable : ∃ bytes,
    tree.content? (engine.views.root ++ names) = some bytes ∧
      tree.read? (engine.views.root ++ names) = .ok (some bytes) := by
  obtain ⟨bytes, there⟩ := Views.exists_content_of_mem_files member
  rw [Location.follow_eq_append engine.views.root readable.1] at there
  exact ⟨bytes, there, sound.opens _ bytes there⟩

theorem viewExists_nameOf_of_isReadable :
    engine.viewExists tree (engine.views.nameOf names) = .ok true := by
  obtain ⟨bytes, _, read⟩ := exists_read_of_isReadable sound member readable
  exact viewExists_of_find (find_nameOf_of_isReadable root sound member readable) read

/-- The row of a listed view is that of the file it was listed for. -/
theorem exists_row_of_isReadable : ∃ bytes,
    tree.content? (engine.views.root ++ names) = some bytes ∧
      engine.views.find (engine.views.nameOf names) = .ok (engine.views.root ++ names) ∧
      ∀ base, Command.row ⟨engine, tree, base⟩ (engine.views.nameOf names) = do
        let text ← FileTree.textOf bytes
        return [engine.views.nameOf names, Text.join ['/'] names,
          Command.verdict (Check.messages text).length] := by
  obtain ⟨bytes, there, read⟩ := exists_read_of_isReadable sound member readable
  have place := find_nameOf_of_isReadable root sound member readable
  exact ⟨bytes, there, place, fun base => row_of_find base place read⟩

omit member readable in
/-- The names of listed files tell them apart. -/
theorem nodup_names (readable : ∀ names ∈ engine.views.files tree, engine.views.IsReadable names) :
    ((engine.views.files tree).map engine.views.nameOf).Nodup := by
  apply List.Nodup.map_on
  · intro names member others memberToo same
    have place := find_nameOf_of_isReadable root sound member (readable names member)
    rw [same, find_nameOf_of_isReadable root sound memberToo (readable others memberToo)] at place
    injection place with equal
    exact (List.append_cancel_left equal).symm
  · exact Views.nodup_files engine.views tree

end Readable

/-- A listed file whose way does not lead up is found under its name exactly if
the name spells it.  If all are, then the names tell the files apart, every view
exists, and each row of a list is that of the file the view was listed for: it
only fails if that is no text. -/
theorem listViews_of_isReadable (engine : Engine) (tree : FileTree)
    (extended : engine.views.extension ≠ [])
    (root : ∀ part ∈ engine.views.root, Path.IsEntry part) (sound : tree.IsSound)
    (usable : engine.views.patterns.any Views.isMisplaced = false) :
    (∀ names ∈ engine.views.files tree, ['.', '.'] ∉ names →
      (engine.views.find (engine.views.nameOf names) = .ok (engine.views.root ++ names) ↔
        ∃ segments, engine.views.Spells segments names)) ∧
    ((∀ names ∈ engine.views.files tree, engine.views.IsReadable names) →
      ∃ listed, engine.listViews tree = .ok listed ∧
        listed.Perm ((engine.views.files tree).map engine.views.nameOf) ∧ listed.Nodup ∧
        (∀ view ∈ listed, engine.viewExists tree view = .ok true) ∧
        (∀ names ∈ engine.views.files tree, ∃ bytes,
          tree.content? (engine.views.root ++ names) = some bytes ∧
          engine.views.find (engine.views.nameOf names) = .ok (engine.views.root ++ names) ∧
          ∀ base, Command.row ⟨engine, tree, base⟩ (engine.views.nameOf names) = do
            let text ← FileTree.textOf bytes
            return [engine.views.nameOf names, Text.join ['/'] names,
              Command.verdict (Check.messages text).length]) ∧
        ∀ base fault, listed.mapM (Command.row ⟨engine, tree, base⟩) = .error fault →
          ∃ problem, fault = .encoding problem) := by
  constructor
  · intro names member down
    exact ⟨Views.exists_spells extended root,
      fun spells => find_nameOf_of_isReadable root sound member ⟨down, spells⟩⟩
  · intro readable
    have order : (Text.sort ((engine.views.files tree).map engine.views.nameOf)).Perm
        ((engine.views.files tree).map engine.views.nameOf) := List.mergeSort_perm _ _
    have named : ∀ view ∈ Text.sort ((engine.views.files tree).map engine.views.nameOf),
        ∃ names ∈ engine.views.files tree, engine.views.nameOf names = view :=
      fun view member => List.mem_map.mp (order.mem_iff.mp member)
    refine ⟨_, ?_, order, order.nodup_iff.mpr (nodup_names root sound readable), ?_, ?_, ?_⟩
    · rw [listViews, Views.list, usable]
      rfl
    · intro view member
      obtain ⟨names, among, rfl⟩ := named view member
      exact viewExists_nameOf_of_isReadable root sound among (readable names among)
    · intro names member
      exact exists_row_of_isReadable root sound member (readable names member)
    · intro base fault failed
      obtain ⟨view, member, here⟩ := exists_of_mapM_eq_error failed
      obtain ⟨names, among, rfl⟩ := named view member
      obtain ⟨bytes, _, _, row⟩ :=
        exists_row_of_isReadable root sound among (readable names among)
      rw [row base] at here
      exact exists_encoding_of_row here

def twoViews : FileTree :=
  ⟨[(["views".toList, "home.html".toList], Utf8.encode "H".toList),
      (["views".toList, "user".toList, "profile.html".toList], Utf8.encode "P".toList)],
    [["views".toList], ["views".toList, "user".toList]]⟩

def untold : Engine :=
  ⟨Config.default, ["views".toList], [], Filter.builtin, Helper.builtin, none⟩

theorem isSound_twoViews : twoViews.IsSound where
  entries := by
    have all : ∀ location ∈ twoViews.files.map Prod.fst ++ twoViews.directories,
        ∀ name ∈ location, Path.IsEntry name := by decide
    intro location there
    exact all location (List.mem_append.mpr there)
  opens := by
    intro location bytes there
    rw [FileTree.content?, twoViews, List.lookup_cons] at there
    split at there
    · next same =>
        injection there with content
        rw [eq_of_beq same, ← content]
        decide +kernel
    · rw [List.lookup_cons] at there
      split at there
      · next same =>
          injection there with content
          rw [eq_of_beq same, ← content]
          decide +kernel
      · exact absurd there (by simp)

theorem files_twoViews : untold.views.files twoViews =
    [["home.html".toList], ["user".toList, "profile.html".toList]] := by
  decide +kernel

theorem isReadable_twoViews :
    ∀ names ∈ untold.views.files twoViews, untold.views.IsReadable names := by
  rw [files_twoViews]
  intro names member
  rcases List.mem_cons.mp member with rfl | rest
  · exact ⟨by decide, ["home".toList], by decide⟩
  · rw [List.mem_singleton.mp rest]
    exact ⟨by decide, ["user".toList, "profile".toList], by decide⟩

theorem listViews_twoViews :
    untold.listViews twoViews = .ok ["home".toList, "user.profile".toList] ∧
      (∀ view ∈ ["home".toList, "user.profile".toList],
        untold.viewExists twoViews view = .ok true) ∧
      untold.views.find "user.profile".toList =
        .ok ["views".toList, "user".toList, "profile.html".toList] := by
  have sorted : Text.sort ((untold.views.files twoViews).map untold.views.nameOf) =
      ["home".toList, "user.profile".toList] := by
    rw [files_twoViews]
    exact List.mergeSort_of_pairwise (by decide)
  have usable : untold.views.patterns.any Views.isMisplaced = false := by decide +kernel
  have computed : untold.listViews twoViews =
      .ok ["home".toList, "user.profile".toList] := by
    rw [listViews, Views.list, usable, sorted]
    rfl
  obtain ⟨_, opens⟩ := listViews_of_isReadable untold twoViews (by decide) (by decide)
    isSound_twoViews usable
  obtain ⟨listed, found, _, _, exist, rows, _⟩ := opens isReadable_twoViews
  rw [computed] at found
  injection found with same
  rw [← same] at exist
  obtain ⟨_, _, place, _⟩ := rows ["user".toList, "profile.html".toList] (by
    rw [files_twoViews]
    simp)
  exact ⟨computed, exist, place⟩

/-- The name of a file with a dot in its stem is that of another place. -/
example : untold.views.nameOf ["a.b.html".toList] = "a.b".toList ∧
    untold.views.find "a.b".toList = .ok ["views".toList, "a".toList, "b.html".toList] := by
  decide +kernel

end Engine

end Stencil
