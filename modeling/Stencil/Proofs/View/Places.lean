import Stencil.Proofs.Text.Split
import Stencil.View.Location

/-!
# The places of views

A view that is found is below the directory of the views, and the text of its
place tells it from every other one.  That it is not found there is the only
reason why no file is read, but for a NUL in its path and for names that are
too long to be looked at.
-/

namespace Stencil

namespace Path

/-- Whether a text can be one of the names of a path. -/
def IsName (name : Text) : Prop :=
  name ≠ [] ∧ '/' ∉ name

theorem isName_of_mem_partsOf {text part : Text} (member : part ∈ partsOf text) : IsName part := by
  obtain ⟨stretch, kept⟩ := List.mem_filter.mp member
  exact ⟨(of_decide_eq_true kept).1, Text.not_mem_of_mem_split stretch⟩

theorem exists_parts_join (base : Path) (text : Text) :
    ∃ added, (∀ part ∈ added, IsName part) ∧
      ((base.join (ofText text)).parts = base.parts ++ added ∨
        (base.join (ofText text)).parts = added) := by
  refine ⟨(ofText text).parts, fun part member => isName_of_mem_partsOf member, ?_⟩
  rw [join]
  split
  · exact .inr rfl
  · exact .inl rfl

end Path

namespace Location

theorem follow_append (here : Location) (first later : List Text) :
    follow here (first ++ later) = follow (follow here first) later := by
  induction first generalizing here with
  | nil => rfl
  | cons part first ih =>
      rw [List.cons_append, follow, follow]
      split
      · exact ih here.dropLast
      · exact ih (here ++ [part])

theorem length_follow_le (here : Location) (parts : List Text) :
    (follow here parts).length ≤ here.length + parts.length := by
  induction parts generalizing here with
  | nil => exact Nat.le_refl _
  | cons part parts ih =>
      rw [follow, List.length_cons]
      split
      · have bound := ih here.dropLast
        rw [List.length_dropLast] at bound
        omega
      · have bound := ih (here ++ [part])
        rw [List.length_append, List.length_singleton] at bound
        omega

theorem exists_follow (here : Location) (parts : List Text) :
    ∃ count added, follow here parts = here.take count ++ added ∧ added.Sublist parts := by
  induction parts generalizing here with
  | nil => exact ⟨here.length, [], by simp [follow], .slnil⟩
  | cons part parts ih =>
      rw [follow]
      split
      · obtain ⟨count, added, same, sublist⟩ := ih here.dropLast
        refine ⟨min count (here.length - 1), added, ?_, sublist.cons part⟩
        rw [same, List.dropLast_eq_take, List.take_take]
      · obtain ⟨count, added, same, sublist⟩ := ih (here ++ [part])
        refine ⟨count, [part].take (count - here.length) ++ added, ?_, ?_⟩
        · rw [same, List.take_append, List.append_assoc]
        · exact (List.take_sublist _ [part]).append sublist

theorem sublist_of_follow_eq_append {here directory rest : Location} {parts : List Text}
    (short : here.length ≤ directory.length) (same : follow here parts = directory ++ rest) :
    rest.Sublist parts := by
  obtain ⟨count, added, followed, sublist⟩ := exists_follow here parts
  rw [followed] at same
  have fits : (here.take count).length ≤ directory.length := by
    rw [List.length_take]
    omega
  rcases List.append_eq_append_iff.mp same with ⟨between, _, more⟩ | ⟨between, whole, less⟩
  · rw [more] at sublist
    exact (List.sublist_append_right between rest).trans sublist
  · have none : between = [] := by
      rw [whole, List.length_append] at fits
      exact List.length_eq_zero_iff.mp (by omega)
    rw [none, List.nil_append] at less
    rwa [less]

theorem exists_text_append (directory : Location) : ∃ stem : Text,
    (text directory).length ≤ stem.length ∧
      ∀ rest : Location, rest ≠ [] → text (directory ++ rest) = stem ++ Text.join ['/'] rest := by
  cases directory with
  | nil => exact ⟨['/'], by decide, fun rest _ => rfl⟩
  | cons first later =>
      refine ⟨text (first :: later) ++ ['/'], by simp, ?_⟩
      intro rest below
      rw [text, text, Text.join_append (List.cons_ne_nil first later) below]
      simp

/-- Names below a directory can be read off the text of their place. -/
theorem eq_of_text_eq {directory first second : Location} (names : ∀ name ∈ first, Path.IsName name)
    (others : ∀ name ∈ second, Path.IsName name)
    (same : text (directory ++ first) = text (directory ++ second)) : first = second := by
  obtain ⟨stem, longer, below⟩ := exists_text_append directory
  have apart : ∀ rest : Location, (∀ name ∈ rest, Path.IsName name) → rest ≠ [] →
      text directory ≠ text (directory ++ rest) := by
    intro rest proper nonempty equal
    have solid : 0 < (Text.join ['/'] rest).length := by
      apply List.length_pos_iff.mpr
      intro empty
      have parts := Text.split_join nonempty fun name member => (proper name member).2
      rw [empty] at parts
      exact (proper [] (by rw [← parts]; exact List.mem_cons_self)).1 rfl
    have lengths := congrArg List.length equal
    rw [below rest nonempty, List.length_append] at lengths
    omega
  by_cases noFirst : first = []
  · by_cases noSecond : second = []
    · rw [noFirst, noSecond]
    · rw [noFirst, List.append_nil] at same
      exact absurd same (apart second others noSecond)
  · by_cases noSecond : second = []
    · rw [noSecond, List.append_nil] at same
      exact absurd same.symm (apart first names noFirst)
    · rw [below first noFirst, below second noSecond] at same
      have joined := List.append_cancel_left same
      have parts := Text.split_join noFirst fun name member => (names name member).2
      rw [joined, Text.split_join noSecond fun name member => (others name member).2] at parts
      exact parts.symm

end Location

namespace FileTree

variable (tree : FileTree)

/-- Whether a name on the way from a directory is too long to be looked at.  It
is only reached if the directories before it exist. -/
def IsBarred (directory : Location) (names : List Text) : Prop :=
  ∃ before name after, names = before ++ name :: after ∧ isTooLong name = true ∧
    ∀ way, way <+: before → tree.isDirectory (directory ++ way) = true

/-- Whether the file at a place cannot be looked for. -/
def Refuses (location : Location) : Prop :=
  isTooDeep location = true ∨ tree.IsBarred [] location

theorem isBarred_cons {directory : Location} {name : Text} {names : List Text}
    (short : isTooLong name = false) : tree.IsBarred directory (name :: names) ↔
      tree.isDirectory directory = true ∧ tree.IsBarred (directory ++ [name]) names := by
  constructor
  · rintro ⟨before, long, after, split, tooLong, ways⟩
    have here := ways [] List.nil_prefix
    rw [List.append_nil] at here
    refine ⟨here, ?_⟩
    cases before with
    | nil =>
        injection split with same
        rw [← same, short] at tooLong
        exact absurd tooLong (by decide)
    | cons first before =>
        injection split with same rest
        subst same
        refine ⟨before, long, after, rest, tooLong, ?_⟩
        intro way inside
        rw [List.append_assoc]
        exact ways (name :: way) (List.cons_prefix_cons.mpr ⟨rfl, inside⟩)
  · rintro ⟨here, before, long, after, rfl, tooLong, ways⟩
    refine ⟨name :: before, long, after, rfl, tooLong, ?_⟩
    intro way inside
    cases way with
    | nil =>
        rw [List.append_nil]
        exact here
    | cons first way =>
        obtain ⟨rfl, deeper⟩ := List.cons_prefix_cons.mp inside
        have there := ways way deeper
        rwa [List.append_assoc] at there

/-- Looking for a file fails exactly at a name that is too long. -/
theorem find?_cases (directory : Location) (names : List Text) :
    ((∃ found, tree.find? directory names = .ok found) ∧ ¬ tree.IsBarred directory names) ∨
      ((∃ path, tree.find? directory names = .error (.file (.nameTooLong path))) ∧
        tree.IsBarred directory names) := by
  induction names generalizing directory with
  | nil =>
      refine .inl ⟨⟨none, rfl⟩, ?_⟩
      rintro ⟨before, name, after, split, _⟩
      exact absurd split (by simp)
  | cons name names ih =>
      rw [find?]
      cases present : tree.isDirectory directory with
      | false =>
          refine .inl ⟨⟨none, rfl⟩, ?_⟩
          rintro ⟨before, long, after, _, _, ways⟩
          have here := ways [] List.nil_prefix
          rw [List.append_nil, present] at here
          exact absurd here (by decide)
      | true =>
          cases long : isTooLong name with
          | true =>
              refine .inr ⟨⟨_, rfl⟩, [], name, names, rfl, long, ?_⟩
              intro way inside
              rw [List.prefix_nil.mp inside, List.append_nil]
              exact present
          | false =>
              rw [tree.isBarred_cons long, present]
              by_cases last : names = []
              · refine .inl ⟨⟨_, if_pos last⟩, ?_⟩
                rintro ⟨_, before, other, after, split, _⟩
                rw [last] at split
                exact absurd split (by simp)
              · have deeper := ih (directory ++ [name])
                simpa [last] using deeper

theorem read?_cases (location : Location) :
    ((∃ found, tree.read? location = .ok found) ∧ ¬ tree.Refuses location) ∨
      ((∃ path, tree.read? location = .error (.file (.nameTooLong path))) ∧
        tree.Refuses location) := by
  rw [read?]
  cases deep : isTooDeep location with
  | true => exact .inr ⟨⟨_, rfl⟩, .inl deep⟩
  | false =>
      rcases tree.find?_cases [] location with ⟨found, clear⟩ | ⟨failed, barred⟩
      · refine .inl ⟨found, ?_⟩
        rintro (tooDeep | barred)
        · rw [deep] at tooDeep
          exact absurd tooDeep (by decide)
        · exact clear barred
      · exact .inr ⟨failed, .inr barred⟩

end FileTree

namespace Views

variable (views : Views)

def path (name : Text) : Path :=
  pathOf views.extension ⟨['/'], views.root⟩ (views.segments name)

/-- Whether the path of a view has a NUL in it. -/
def HasNul (name : Text) : Prop :=
  views.segments name ≠ [] ∧ ∃ part ∈ (views.path name).parts, '\x00' ∈ part

theorem exists_parts_pathOf (extension : Text) (base : Path) (segments : List Text) :
    ∃ added, (∀ part ∈ added, Path.IsName part) ∧
      ((pathOf extension base segments).parts = base.parts ++ added ∨
        (pathOf extension base segments).parts = added) := by
  induction segments generalizing base with
  | nil => exact ⟨[], by simp, .inl (List.append_nil base.parts).symm⟩
  | cons segment segments ih =>
      cases segments with
      | nil => exact base.exists_parts_join (segment ++ extension)
      | cons next later =>
          obtain ⟨here, properHere, whereHere⟩ := base.exists_parts_join segment
          obtain ⟨rest, properRest, whereRest⟩ := ih (base.join (Path.ofText segment))
          rcases whereRest with behind | instead
          · refine ⟨here ++ rest, ?_, ?_⟩
            · intro part member
              rcases List.mem_append.mp member with first | last
              · exact properHere part first
              · exact properRest part last
            · rw [pathOf, behind]
              rcases whereHere with onBase | alone
              · exact .inl (by rw [onBase, List.append_assoc])
              · exact .inr (by rw [alone])
          · exact ⟨rest, properRest, .inr instead⟩

theorem find_cases (name : Text) :
    (views.find name = .error (.viewNotFound name) ∧ ¬ views.HasNul name) ∨
      (views.find name = .error .nulInPath ∧ views.HasNul name) ∨
      (∃ rest, views.find name = .ok (views.root ++ rest) ∧ ¬ views.HasNul name ∧
        Location.ofPath [] (views.path name) = views.root ++ rest) := by
  by_cases unnamed : views.segments name = []
  · refine .inl ⟨?_, fun hasNul => hasNul.1 unnamed⟩
    rw [find]
    exact if_pos unnamed
  · cases nul : (views.path name).parts.any (fun part => part.contains '\x00') with
    | true =>
        have failed : locate [] (views.path name) = .error .nulInPath := by
          rw [locate, if_pos nul]
        obtain ⟨part, member, inside⟩ := List.any_eq_true.mp nul
        refine .inr (.inl ⟨?_, unnamed, part, member, List.contains_iff_mem.mp inside⟩)
        rw [find]
        refine (if_neg unnamed).trans ?_
        show (locate [] (views.path name) >>= _) = _
        rw [failed]
        rfl
    | false =>
        have located : locate [] (views.path name) =
            .ok (Location.ofPath [] (views.path name)) := by
          rw [locate, nul]
          rfl
        have clean : ¬ views.HasNul name := by
          rintro ⟨_, part, member, inside⟩
          have none := List.any_eq_false.mp nul part member
          exact none (List.contains_iff_mem.mpr inside)
        have started : views.find name = _ := (if_neg unnamed).trans (congrArg (· >>= _) located)
        cases below : Location.within? views.root (Location.ofPath [] (views.path name)) with
        | none =>
            refine .inl ⟨?_, clean⟩
            rw [started]
            simp only [bind, Except.bind, below]
        | some rest =>
            have followed := Location.within?_eq_some_iff.mp below
            refine .inr (.inr ⟨rest, ?_, clean, followed⟩)
            rw [started, ← followed]
            simp only [bind, Except.bind, below]
            rfl

theorem exists_ofPath_of_find {name : Text} {location : Location}
    (found : views.find name = .ok location) :
    ∃ rest, location = views.root ++ rest ∧
      Location.ofPath [] (views.path name) = views.root ++ rest := by
  rcases views.find_cases name with ⟨missing, _⟩ | ⟨hasNul, _⟩ | ⟨rest, place, _, followed⟩
  · rw [missing] at found
    exact absurd found (by simp)
  · rw [hasNul] at found
    exact absurd found (by simp)
  · rw [place] at found
    injection found with same
    exact ⟨rest, same.symm, followed⟩

/-- A view is found below the directory of the views. -/
theorem exists_below {name : Text} {location : Location} (found : views.find name = .ok location) :
    ∃ rest, location = views.root ++ rest ∧ ∀ part ∈ rest, Path.IsName part := by
  obtain ⟨rest, same, followed⟩ := views.exists_ofPath_of_find found
  refine ⟨rest, same, ?_⟩
  obtain ⟨added, proper, parts⟩ :=
    exists_parts_pathOf views.extension ⟨['/'], views.root⟩ (views.segments name)
  have way : Location.follow [] (views.path name).parts = views.root ++ rest := by
    rw [← followed, Location.ofPath]
    split <;> rfl
  intro part member
  apply proper
  rcases parts with behind | instead
  · rw [path, behind, Location.follow_append] at way
    have bound := Location.length_follow_le [] views.root
    exact (Location.sublist_of_follow_eq_append (by simpa using bound) way).subset member
  · rw [path, instead] at way
    exact (Location.sublist_of_follow_eq_append (Nat.zero_le _) way).subset member

/-- The text of its place tells a view from all others. -/
theorem eq_of_text_eq {name other : Text} {first second : Location}
    (found : views.find name = .ok first) (foundToo : views.find other = .ok second)
    (same : Location.text first = Location.text second) : first = second := by
  obtain ⟨rest, rfl, proper⟩ := views.exists_below found
  obtain ⟨others, rfl, properToo⟩ := views.exists_below foundToo
  rw [Location.eq_of_text_eq proper properToo same]

end Views

end Stencil
