import Mathlib.Data.List.Basic
import Mathlib.Tactic.MkIffOfInductiveProp
import Stencil.Proofs.Text.Words
import Stencil.Proofs.View.Places
import Stencil.View.Listing

/-!
# Names of listed views

The name of a listed view is made from the way to its file, and the place of a
view from its name.  Everything that is left out on the way back, blank
characters, an extension, empty segments, empty parts, makes the result
shorter, so the way back ends at the file only if nothing was left out: then the
way is spelled by segments without dots and the extension.
-/

namespace Stencil

namespace Text

/-- How long some parts are, each with a delimiter. -/
def weight : List Text → Nat
  | [] => 0
  | part :: parts => part.length + 1 + weight parts

@[simp] theorem weight_nil : weight [] = 0 := rfl

@[simp] theorem weight_cons (part : Text) (parts : List Text) :
    weight (part :: parts) = part.length + 1 + weight parts := rfl

theorem length_join (delimiter : Char) {parts : List Text} (nonempty : parts ≠ []) :
    (join [delimiter] parts).length + 1 = weight parts := by
  induction parts with
  | nil => exact absurd rfl nonempty
  | cons part later ih =>
      cases later with
      | nil => simp [join]
      | cons next later =>
          have rest := ih (List.cons_ne_nil next later)
          rw [join, weight_cons, ← rest]
          simp only [List.length_append, List.length_singleton]
          omega

theorem weight_split (delimiter : Char) (text : Text) :
    weight (split delimiter text) = text.length + 1 := by
  rw [← length_join delimiter (split_ne_nil delimiter text), join_split]

theorem weight_sublist {first second : List Text} (sublist : first.Sublist second) :
    weight first < weight second ∨ first = second := by
  induction sublist with
  | slnil => exact .inr rfl
  | cons part _ ih =>
      left
      rw [weight_cons]
      rcases ih with less | same
      · omega
      · rw [same]
        omega
  | cons_cons part _ ih =>
      rw [weight_cons, weight_cons]
      rcases ih with less | same
      · left
        omega
      · right
        rw [same]

theorem length_trim_lt {text : Text} (changed : trim text ≠ text) :
    (trim text).length < text.length := by
  have inside := trim_infix text
  rcases Nat.lt_or_ge (trim text).length text.length with less | same
  · exact less
  · exact absurd (inside.eq_of_length_le same) changed

theorem endsWith_iff {text tail : Text} : endsWith text tail = true ↔ tail <:+ text := by
  rw [endsWith, startsWith, Option.isSome_iff_exists, ← List.reverse_prefix]
  constructor
  · rintro ⟨rest, after⟩
    exact ⟨rest, (after?_eq_some_iff.mp after).symm⟩
  · rintro ⟨rest, whole⟩
    exact ⟨rest, after?_eq_some_iff.mpr whole.symm⟩

end Text

namespace Path

/-- Whether a text can be the name of a file or a directory. -/
@[mk_iff]
structure IsEntry (name : Text) : Prop where
  isName : IsName name
  notHere : name ≠ ['.']
  notUp : name ≠ ['.', '.']
  noNul : '\x00' ∉ name

instance (name : Text) : Decidable (IsName name) :=
  inferInstanceAs (Decidable (name ≠ [] ∧ '/' ∉ name))

instance (name : Text) : Decidable (IsEntry name) :=
  decidable_of_iff' _ (isEntry_iff name)

theorem partsOf_sublist (text : Text) : (partsOf text).Sublist (Text.split '/' text) :=
  List.filter_sublist

theorem partsOf_join {names : List Text} (nonempty : names ≠ [])
    (entries : ∀ name ∈ names, IsEntry name) : partsOf (Text.join ['/'] names) = names := by
  rw [partsOf, Text.split_join nonempty fun name member => (entries name member).isName.2]
  apply List.filter_eq_self.mpr
  intro name member
  have entry := entries name member
  simp [entry.isName.1, entry.notHere]

end Path


namespace Location

/-- Parts that do not lead up are followed one by one. -/
theorem follow_eq_append (here : Location) {parts : List Text} (down : ['.', '.'] ∉ parts) :
    follow here parts = here ++ parts := by
  induction parts generalizing here with
  | nil => simp [follow]
  | cons part parts ih =>
      have differs : part ≠ ['.', '.'] := fun same => down (by rw [same]; exact List.mem_cons_self)
      rw [follow, if_neg differs, ih _ fun member => down (List.mem_cons_of_mem part member)]
      simp

end Location

namespace Views

variable (views : Views)

/-- Whether a segment is one name without a dot. -/
@[mk_iff]
structure IsSegment (segment : Text) : Prop where
  nonempty : segment ≠ []
  noDot : '.' ∉ segment
  noSlash : '/' ∉ segment

instance (segment : Text) : Decidable (IsSegment segment) :=
  decidable_of_iff' _ (isSegment_iff segment)

theorem IsSegment.ne_dot {segment : Text} (segmental : IsSegment segment) : segment ≠ ['.'] := by
  rintro rfl
  exact segmental.noDot List.mem_cons_self

theorem parts_join_ofText {text : Text} (relative : text.head? ≠ some '/') (base : Path) :
    base.join (Path.ofText text) = ⟨base.root, base.parts ++ Path.partsOf text⟩ := by
  have noSlashes : text.takeWhile (· = '/') = [] := by
    cases text with
    | nil => rfl
    | cons char text =>
        have differs : char ≠ '/' := fun same => relative (by rw [same]; rfl)
        simp [differs]
  have parsed : Path.ofText text = ⟨[], Path.partsOf text⟩ := by
    rw [Path.ofText, Path.splitRoot, noSlashes]
    rfl
  rw [parsed]
  rfl

theorem IsSegment.head?_append {segment : Text} (segmental : IsSegment segment) (rest : Text) :
    (segment ++ rest).head? ≠ some '/' := by
  cases segment with
  | nil => exact absurd rfl segmental.nonempty
  | cons char segment =>
      intro first
      injection first with same
      exact segmental.noSlash (by rw [same]; exact List.mem_cons_self)

theorem partsOf_segment_append {segment : Text} (segmental : IsSegment segment) (rest : Text) :
    Path.partsOf (segment ++ '/' :: rest) = segment :: Path.partsOf rest := by
  have notHere : segment ≠ ['.'] := segmental.ne_dot
  rw [Path.partsOf, Text.split_append segmental.noSlash, List.filter_cons_of_pos]
  · rfl
  · simp [segmental.nonempty, notHere]

theorem partsOf_segment {segment : Text} (segmental : IsSegment segment) :
    Path.partsOf segment = [segment] := by
  have notHere : segment ≠ ['.'] := segmental.ne_dot
  rw [Path.partsOf, Text.split_of_not_mem segmental.noSlash]
  simp [segmental.nonempty, notHere]

/-- The parts of the path of segments are those of the segments with slashes
between them and the extension. -/
theorem pathOf_eq (extension : Text) (base : Path) {segments : List Text} (nonempty : segments ≠ [])
    (segmental : ∀ segment ∈ segments, IsSegment segment) :
    pathOf extension base segments =
      ⟨base.root, base.parts ++ Path.partsOf (Text.join ['/'] segments ++ extension)⟩ := by
  induction segments generalizing base with
  | nil => exact absurd rfl nonempty
  | cons segment segments ih =>
      have here := segmental segment List.mem_cons_self
      cases segments with
      | nil => exact parts_join_ofText (here.head?_append extension) base
      | cons next later =>
          have relative := here.head?_append []
          rw [List.append_nil] at relative
          have deeper := ih (base.join (Path.ofText segment)) (List.cons_ne_nil next later)
            fun other member => segmental other (List.mem_cons_of_mem segment member)
          have spelled : Text.join ['/'] (segment :: next :: later) ++ extension =
              segment ++ '/' :: (Text.join ['/'] (next :: later) ++ extension) := by
            simp [Text.join]
          rw [pathOf, deeper, parts_join_ofText relative, spelled, partsOf_segment_append here,
            partsOf_segment here]
          simp

end Views


namespace Views

variable (views : Views)

/-- Whether the way to a file consists of segments without dots and the
extension, and the segments make up a name that is read as it is written. -/
@[mk_iff]
structure Spells (segments names : List Text) : Prop where
  written : Text.join ['/'] names = Text.join ['/'] segments ++ views.extension
  nonempty : segments ≠ []
  segmental : ∀ segment ∈ segments, IsSegment segment
  unpadded : Text.trim (Text.join ['.'] segments) = Text.join ['.'] segments
  bare : Text.endsWith (Text.join ['.'] segments) views.extension = false

instance (segments names : List Text) : Decidable (views.Spells segments names) :=
  decidable_of_iff' _ (spells_iff views segments names)

/-- A text with dots in place of its slashes. -/
def dotted (text : Text) : Text :=
  text.map fun char => if char = '/' then '.' else char

theorem slash_not_mem_dotted (text : Text) : '/' ∉ dotted text := by
  intro member
  obtain ⟨char, _, same⟩ := List.mem_map.mp member
  split at same
  · exact absurd same (by decide)
  · next differs => exact differs same

theorem dotted_of_not_mem {text : Text} (absent : '/' ∉ text) : dotted text = text := by
  rw [dotted, List.map_congr_left (g := id), List.map_id]
  intro char member
  exact if_neg fun same => absent (by rw [← same]; exact member)

theorem dotted_join {segments : List Text} (segmental : ∀ segment ∈ segments, IsSegment segment) :
    dotted (Text.join ['/'] segments) = Text.join ['.'] segments := by
  induction segments with
  | nil => rfl
  | cons segment segments ih =>
      have here := dotted_of_not_mem (segmental segment List.mem_cons_self).noSlash
      cases segments with
      | nil => exact here
      | cons next later =>
          have rest := ih fun other member => segmental other (List.mem_cons_of_mem segment member)
          have slash : dotted ['/'] = ['.'] := by decide
          have spread : ∀ first second : Text,
              dotted (first ++ second) = dotted first ++ dotted second :=
            fun first second => List.map_append
          rw [Text.join, spread, spread, here, slash, rest, Text.join]

theorem dropEnd_append (text tail : Text) : Text.dropEnd tail.length (text ++ tail) = text := by
  simp [Text.dropEnd]

theorem length_nameOf (names : List Text) :
    (views.nameOf names).length = (Text.join ['/'] names).length - views.extension.length := by
  simp [nameOf, Text.dropEnd]

variable {views} {segments names : List Text}

namespace Spells

theorem nameOf_eq (spells : views.Spells segments names) :
    views.nameOf names = Text.join ['.'] segments := by
  have dots := dotted_join spells.segmental
  rw [nameOf, spells.written, dropEnd_append]
  exact dots

theorem segments_nameOf (spells : views.Spells segments names) :
    views.segments (views.nameOf names) = segments := by
  have cut := Text.split_join spells.nonempty fun segment member =>
    (spells.segmental segment member).noDot
  rw [Views.segments, spells.nameOf_eq, spells.unpadded]
  simp only [spells.bare, Bool.false_eq_true, if_false, cut]
  apply List.filter_eq_self.mpr
  intro segment member
  exact decide_eq_true (spells.segmental segment member).nonempty

theorem names_ne_nil (spells : views.Spells segments names) : names ≠ [] := by
  rintro rfl
  have empty := (List.append_eq_nil_iff.mp spells.written.symm).1
  have cut := Text.split_join spells.nonempty fun segment member =>
    (spells.segmental segment member).noSlash
  rw [empty] at cut
  have inside : [] ∈ segments := by
    rw [← cut]
    exact List.mem_cons_self
  exact (spells.segmental [] inside).nonempty rfl

/-- A view that is listed under a name that spells its place is found there. -/
theorem find_nameOf (spells : views.Spells segments names)
    (root : ∀ part ∈ views.root, Path.IsEntry part)
    (entries : ∀ name ∈ names, Path.IsEntry name) :
    views.find (views.nameOf names) = .ok (views.root ++ names) := by
  have nonempty := spells.names_ne_nil
  have place : views.path (views.nameOf names) = ⟨['/'], views.root ++ names⟩ := by
    rw [path, spells.segments_nameOf, pathOf_eq views.extension _ spells.nonempty spells.segmental,
      ← spells.written, Path.partsOf_join nonempty entries]
  have whole : ∀ part ∈ views.root ++ names, Path.IsEntry part :=
    List.forall_mem_append.mpr ⟨root, entries⟩
  have followed : Location.ofPath [] (views.path (views.nameOf names)) = views.root ++ names := by
    have down : ['.', '.'] ∉ views.root ++ names := fun member => (whole _ member).notUp rfl
    rw [place, Location.ofPath]
    exact Location.follow_eq_append [] down
  have clean : (views.path (views.nameOf names)).parts.any (fun part => part.contains '\x00') =
      false := by
    rw [List.any_eq_false]
    intro part member nul
    rw [place] at member
    exact (whole part member).noNul (List.contains_iff_mem.mp nul)
  have located : locate [] (views.path (views.nameOf names)) = .ok (views.root ++ names) := by
    rw [locate, clean, followed]
    rfl
  have below : Location.within? views.root (views.root ++ names) = some names :=
    Location.within?_eq_some_iff.mpr rfl
  have named : views.segments (views.nameOf names) ≠ [] := by
    rw [spells.segments_nameOf]
    exact spells.nonempty
  rw [find]
  refine (if_neg named).trans ?_
  show (locate [] (views.path (views.nameOf names)) >>= _) = _
  rw [located]
  simp only [bind, Except.bind, below]
  rfl

end Spells

/-- What is read of a name: the name itself, or something shorter. -/
theorem segments_eq_or_lt (extended : views.extension ≠ []) (name : Text) :
    Text.weight (views.segments name) < name.length + 1 ∨
      views.segments name = Text.split '.' name ∧ Text.trim name = name ∧
        Text.endsWith name views.extension = false := by
  have kept : ∀ text : Text, ((Text.split '.' text).filter fun segment => segment ≠ []).Sublist
      (Text.split '.' text) := fun text => List.filter_sublist
  have bounded : ∀ text : Text,
      Text.weight ((Text.split '.' text).filter fun segment => segment ≠ []) ≤ text.length + 1 := by
    intro text
    rw [← Text.weight_split '.']
    rcases Text.weight_sublist (kept text) with less | same
    · exact Nat.le_of_lt less
    · rw [same]
  have trimmed : (Text.trim name).length ≤ name.length := (Text.trim_infix name).length_le
  cases ends : Text.endsWith (Text.trim name) views.extension with
  | true =>
      left
      have shorter : (Text.dropEnd views.extension.length (Text.trim name)).length <
          (Text.trim name).length := by
        have fits := (Text.endsWith_iff.mp ends).length_le
        have solid := List.length_pos_iff.mpr extended
        rw [Text.dropEnd, List.length_take]
        omega
      rw [segments]
      simp only [ends, if_true]
      exact Nat.lt_of_le_of_lt (bounded _) (by omega)
  | false =>
      have read : views.segments name =
          (Text.split '.' (Text.trim name)).filter fun segment => segment ≠ [] := by
        rw [segments]
        simp only [ends, Bool.false_eq_true, if_false]
      by_cases changed : Text.trim name = name
      · rw [changed] at read ends
        rcases Text.weight_sublist (kept name) with less | same
        · left
          rwa [read, ← Text.weight_split '.']
        · exact .inr ⟨read.trans same, changed, ends⟩
      · left
        rw [read]
        exact Nat.lt_of_le_of_lt (bounded _) (Nat.succ_lt_succ (Text.length_trim_lt changed))

theorem isSegment_of_mem_segments {name segment : Text} (noSlash : '/' ∉ name)
    (member : segment ∈ views.segments name) : IsSegment segment := by
  obtain ⟨stretch, kept⟩ := List.mem_filter.mp member
  refine ⟨of_decide_eq_true kept, Text.not_mem_of_mem_split stretch, ?_⟩
  intro slash
  have inside := (Text.infix_of_mem_split stretch).subset slash
  have trimmed := (Text.trim_infix name).subset
  split at inside
  · exact noSlash (trimmed (List.mem_of_mem_take inside))
  · exact noSlash (trimmed inside)

theorem segments_nil : views.segments [] = [] := by
  have none : Text.dropEnd views.extension.length [] = [] := by simp [Text.dropEnd]
  have blank : Text.trim [] = [] := rfl
  rw [segments, blank]
  simp only [none, ite_self]
  rfl

theorem segments_ne_nil_of_find {name : Text} {location : Location}
    (found : views.find name = .ok location) : views.segments name ≠ [] := by
  intro unnamed
  have missing : views.find name = .error (.viewNotFound name) := by
    rw [find]
    exact if_pos unnamed
  rw [missing] at found
  exact absurd found (by simp)

theorem sublist_split_of_find {name : Text}
    (segmental : ∀ segment ∈ views.segments name, IsSegment segment)
    (root : ∀ part ∈ views.root, Path.IsEntry part)
    (found : views.find name = .ok (views.root ++ names)) :
    names.Sublist (Text.split '/' (Text.join ['/'] (views.segments name) ++ views.extension)) := by
  have parts := pathOf_eq views.extension ⟨['/'], views.root⟩ (segments_ne_nil_of_find found)
    segmental
  have down : ['.', '.'] ∉ views.root := fun member => (root _ member).notUp rfl
  obtain ⟨rest, same, followed⟩ := views.exists_ofPath_of_find found
  obtain rfl : names = rest := List.append_cancel_left same
  have way : Location.follow views.root
      (Path.partsOf (Text.join ['/'] (views.segments name) ++ views.extension)) =
        views.root ++ names := by
    have start := Location.follow_eq_append [] down
    rw [List.nil_append] at start
    rw [← followed, path, parts, Location.ofPath]
    show _ = Location.follow [] (views.root ++ Path.partsOf _)
    rw [Location.follow_append, start]
  exact (Location.sublist_of_follow_eq_append (Nat.le_refl _) way).trans (Path.partsOf_sublist _)

/-- A listed view is found at its file only if its name spells the place. -/
theorem exists_spells (extended : views.extension ≠ [])
    (root : ∀ part ∈ views.root, Path.IsEntry part)
    (found : views.find (views.nameOf names) = .ok (views.root ++ names)) :
    ∃ segments, views.Spells segments names := by
  have named := segments_ne_nil_of_find found
  have noSlash : '/' ∉ views.nameOf names := slash_not_mem_dotted _
  have segmental : ∀ segment ∈ views.segments (views.nameOf names), IsSegment segment :=
    fun segment member => isSegment_of_mem_segments noSlash member
  have solid : views.nameOf names ≠ [] := by
    intro empty
    rw [empty] at named
    exact named segments_nil
  have nonempty : names ≠ [] := by
    rintro rfl
    exact solid (by simp [nameOf, Text.join, Text.dropEnd])
  obtain ⟨read, readEq⟩ : ∃ read, read =
      Text.join ['/'] (views.segments (views.nameOf names)) ++ views.extension := ⟨_, rfl⟩
  have sublist : names.Sublist (Text.split '/' read) := by
    rw [readEq]
    exact sublist_split_of_find segmental root found
  have whole := Text.length_join '/' nonempty
  have readLength := congrArg List.length readEq
  have joined := Text.length_join '/' named
  have nameLength := views.length_nameOf names
  have long := List.length_pos_iff.mpr solid
  rw [List.length_append] at readLength
  have shrunk := Text.weight_sublist sublist
  rw [Text.weight_split] at shrunk
  have bound : Text.weight names ≤ read.length + 1 := by
    rcases shrunk with less | same
    · exact Nat.le_of_lt less
    · rw [same, Text.weight_split]
  rcases segments_eq_or_lt extended (views.nameOf names) with shorter | ⟨cut, unpadded, bare⟩
  · omega
  · have cutWeight := Text.weight_split '.' (views.nameOf names)
    rw [← cut] at cutWeight
    rcases shrunk with less | same
    · omega
    · refine ⟨views.segments (views.nameOf names), ?_, named, segmental, ?_, ?_⟩
      · rw [← readEq, same, Text.join_split]
      · rw [cut, Text.join_split, unpadded]
      · rw [cut, Text.join_split, bare]

end Views

/-- Whether a tree is one that a file system can hold: every name is that of an
entry, and every file can be opened at its place. -/
structure FileTree.IsSound (tree : FileTree) : Prop where
  entries : ∀ location, location ∈ tree.files.map Prod.fst ∨ location ∈ tree.directories →
    ∀ name ∈ location, Path.IsEntry name
  opens : ∀ location bytes, tree.content? location = some bytes →
    tree.read? location = .ok (some bytes)

namespace FileTree

variable (tree : FileTree) {directory : Location}

theorem mem_of_mem_entries {name : Text} (member : name ∈ tree.entries directory) :
    directory ++ [name] ∈ tree.files.map Prod.fst ∨ directory ++ [name] ∈ tree.directories := by
  obtain ⟨location, there, within⟩ := List.mem_filterMap.mp member
  split at within
  · next found =>
      injection within with same
      rw [← same, ← Location.within?_eq_some_iff.mp found]
      exact List.mem_append.mp there
  · exact absurd within (by simp)

theorem mem_of_mem_directoriesBelow {names : List Text}
    (member : names ∈ tree.directoriesBelow directory) :
    names = [] ∨ directory ++ names ∈ tree.directories := by
  rcases List.mem_cons.mp member with here | listed
  · exact .inl here
  · obtain ⟨location, there, within⟩ := List.mem_filterMap.mp listed
    split at within
    · next found =>
        injection within with same
        rw [← same, ← Location.within?_eq_some_iff.mp found]
        exact .inr there
    · exact absurd within (by simp)

end FileTree

namespace Views

variable {views : Views} {tree : FileTree}

theorem entries_of_mem_ways (sound : tree.IsSound) {directory : Location} {patterns : List Text}
    {names way : List Text} (entries : ∀ name ∈ names, Path.IsEntry name ∨ name = ['.', '.'])
    (member : way ∈ ways tree directory patterns names) :
    ∀ name ∈ way, Path.IsEntry name ∨ name = ['.', '.'] := by
  induction patterns generalizing names with
  | nil =>
      rw [ways, List.mem_singleton] at member
      rwa [member]
  | cons pattern patterns ih =>
      rw [ways] at member
      split at member
      · exact absurd member List.not_mem_nil
      · split at member
        · obtain ⟨below, among, deeper⟩ := List.mem_flatMap.mp member
          refine ih (List.forall_mem_append.mpr ⟨entries, ?_⟩) deeper
          intro name inside
          left
          rcases tree.mem_of_mem_directoriesBelow among with rfl | folder
          · exact absurd inside List.not_mem_nil
          · exact sound.entries _ (.inr folder) name (List.mem_append_right _ inside)
        · split at member
          · next up =>
              refine ih (List.forall_mem_append.mpr ⟨entries, ?_⟩) member
              intro name inside
              rw [List.mem_singleton.mp inside]
              exact .inr up
          · obtain ⟨entry, among, deeper⟩ := List.mem_flatMap.mp member
            refine ih (List.forall_mem_append.mpr ⟨entries, ?_⟩) deeper
            intro name inside
            rw [List.mem_singleton.mp inside]
            left
            exact sound.entries _ (tree.mem_of_mem_entries (List.mem_filter.mp among).1) entry
              (List.mem_append_right _ List.mem_cons_self)

theorem exists_content_of_mem_files {way : List Text} (member : way ∈ views.files tree) :
    ∃ bytes, tree.content? (Location.follow views.root way) = some bytes := by
  rw [files, List.mem_eraseDups] at member
  exact Option.isSome_iff_exists.mp (List.mem_filter.mp member).2

theorem entries_of_mem_files (sound : tree.IsSound) {way : List Text}
    (member : way ∈ views.files tree) (down : ['.', '.'] ∉ way) :
    ∀ name ∈ way, Path.IsEntry name := by
  rw [files, List.mem_eraseDups] at member
  intro name inside
  have entry := entries_of_mem_ways sound (by simp) (List.mem_filter.mp member).1 name inside
  exact entry.resolve_right fun up => down (by rw [← up]; exact inside)

end Views

theorem nodup_eraseDups [BEq α] [LawfulBEq α] (list : List α) : list.eraseDups.Nodup := by
  induction length : list.length using Nat.strong_induction_on generalizing list with
  | _ count ih =>
      cases list with
      | nil => simp
      | cons first later =>
          rw [List.eraseDups_cons, List.nodup_cons]
          refine ⟨by simp, ih _ ?_ _ rfl⟩
          have shorter := List.length_filter_le (fun other => !other == first) later
          rw [List.length_cons] at length
          omega

theorem Views.nodup_files (views : Views) (tree : FileTree) : (views.files tree).Nodup :=
  nodup_eraseDups _

end Stencil
