import Stencil.Proofs.View.Expansion

/-!
# Inlining without a guard

An expansion that looks neither at what is being expanded nor at how deep it is
may have no end.  Where it has one, it has only one outcome; and an expansion
has that outcome if no chain of includes leads to a file twice, meets a file
that is being expanded or has more files than there is room for.  It is a text
unless an include on the way cannot be looked up, which no comment is put for.
-/

namespace Stencil.Views

section Unguarded

variable (views : Views) (tree : FileTree)

/-- What an include stands for in a file of a directory, if `inside` tells what
the text of the file at a place stands for. -/
def standing (inside : Location → Except Fault Text) (directory : Location) (name : Text) :
    Except Fault Text :=
  match views.findInclude name directory with
  | .error (.viewNotFound _) => .ok (comment "Include file not found".toList name)
  | .error fault => .error fault
  | .ok location =>
      match tree.finding location with
      | .barred fault => .error fault
      | .nothing => .ok (comment "Include file not found".toList name)
      | .unreadable _ => .ok (comment "Error processing include".toList name)
      | .file _ => inside location

/-- What a text in a file of a directory stands for when every include is
replaced by the text of its file, in which every include is replaced. -/
inductive Inlines : Location → Text → Except Fault Text → Prop
  | whole {directory : Location} {content : Text} {inside : Location → Except Fault Text}
      (each : ∀ name ∈ includeNames content, ∀ location inner,
        views.LeadsTo tree directory name location inner →
          Inlines location.dropLast inner (inside location)) :
      Inlines directory content
        (joined (written (views.standing tree inside directory)) (Tag.includeTag.pieces content))

/-- The places that the includes of a text lead to one after the other.  All
files but the last one are there and can be read. -/
inductive Chain : Location → Text → List Text → Prop
  | last {directory : Location} {content name : Text} {location : Location}
      (member : name ∈ includeNames content)
      (found : views.findInclude name directory = .ok location) :
      Chain directory content [Location.text location]
  | further {directory : Location} {content name inner : Text} {location : Location}
      {places : List Text} (member : name ∈ includeNames content)
      (leads : views.LeadsTo tree directory name location inner)
      (rest : Chain location.dropLast inner places) :
      Chain directory content (Location.text location :: places)

/-- Whether an include in a file of some directory is met in a text or in a
file that its includes lead to. -/
inductive Meets : Location → Text → Location → Text → Prop
  | here {directory : Location} {content name : Text} (member : name ∈ includeNames content) :
      Meets directory content directory name
  | inside {directory : Location} {content name inner : Text} {location : Location}
      {place : Location} {met : Text} (member : name ∈ includeNames content)
      (leads : views.LeadsTo tree directory name location inner)
      (rest : Meets location.dropLast inner place met) : Meets directory content place met

/-- Whether an include cannot be looked up: its name cannot be that of a place,
or whether a file is at the place cannot be told. -/
def IsRefused (directory : Location) (name : Text) : Prop :=
  (∃ fault, views.findInclude name directory = .error fault ∧ ∀ view, fault ≠ .viewNotFound view) ∨
    ∃ location, views.findInclude name directory = .ok location ∧ tree.Refuses location

end Unguarded

variable {views : Views} {tree : FileTree}

theorem standing_congr {inside other : Location → Except Fault Text} {directory : Location}
    {name : Text}
    (same : ∀ location inner, views.LeadsTo tree directory name location inner →
      inside location = other location) :
    views.standing tree inside directory name = views.standing tree other directory name := by
  unfold standing
  cases found : views.findInclude name directory with
  | error fault => cases fault <;> rfl
  | ok location =>
      dsimp only
      cases here : tree.finding location with
      | file content => exact same location content ⟨found, here⟩
      | _ => rfl

/-- Inlining without a guard has no more than one outcome. -/
theorem Inlines.unique {directory : Location} {content : Text} {first second : Except Fault Text}
    (one : views.Inlines tree directory content first)
    (other : views.Inlines tree directory content second) : first = second := by
  induction one generalizing second with
  | @whole directory content inside each ih =>
      cases other with
      | whole others =>
          apply joined_written_congr
          intro name member
          apply standing_congr
          intro location inner leads
          exact ih name member location inner leads (others name member location inner leads)

theorem barred_iff (tree : FileTree) (location : Location) :
    (∃ fault, tree.finding location = .barred fault) ↔ tree.Refuses location := by
  unfold FileTree.finding
  rcases tree.read?_cases location with ⟨⟨found, read⟩, clear⟩ | ⟨⟨path, failed⟩, refuses⟩
  · rw [read]
    constructor
    · rintro ⟨fault, barred⟩
      cases found with
      | none => exact absurd barred (by simp)
      | some bytes =>
          dsimp only at barred
          cases decoded : FileTree.textOf bytes with
          | ok content => rw [decoded] at barred; exact absurd barred (by simp)
          | error fault => rw [decoded] at barred; exact absurd barred (by simp)
    · exact fun refuses => absurd refuses clear
  · rw [failed]
    exact ⟨fun _ => refuses, fun _ => ⟨_, rfl⟩⟩

/-- An include stands for a text unless it cannot be looked up or the text of
its file stands for none. -/
theorem exists_standing_iff {inside : Location → Except Fault Text} {directory : Location}
    {name : Text} :
    (∃ text, views.standing tree inside directory name = .ok text) ↔
      ¬ views.IsRefused tree directory name ∧
        ∀ location inner, views.LeadsTo tree directory name location inner →
          ∃ text, inside location = .ok text := by
  unfold standing IsRefused LeadsTo
  cases found : views.findInclude name directory with
  | error fault => cases fault <;> simp
  | ok location =>
      have refuses := barred_iff tree location
      dsimp only
      cases here : tree.finding location with
      | barred fault => simp [refuses.mp ⟨fault, here⟩]
      | file content =>
          have clear : ¬ tree.Refuses location := by simp [← refuses, here]
          constructor
          · rintro ⟨text, stands⟩
            refine ⟨by simpa using clear, ?_⟩
            rintro _ inner ⟨same, _⟩
            cases same
            exact ⟨text, stands⟩
          · rintro ⟨_, inside⟩
            exact inside location content ⟨rfl, here⟩
      | _ =>
          have clear : ¬ tree.Refuses location := by simp [← refuses, here]
          refine ⟨fun _ => ⟨by simpa using clear, ?_⟩, fun _ => ⟨_, rfl⟩⟩
          rintro _ inner ⟨same, file⟩
          cases same
          rw [here] at file
          exact absurd file (by simp)

/-- Inlining gives a text unless an include is met that cannot be looked up. -/
theorem Inlines.exists_text_iff {directory : Location} {content : Text}
    {outcome : Except Fault Text} (inlines : views.Inlines tree directory content outcome) :
    (∃ text, outcome = .ok text) ↔
      ∀ place name, views.Meets tree directory content place name →
        ¬ views.IsRefused tree place name := by
  induction inlines with
  | @whole directory content inside each ih =>
      rw [exists_joined_written_iff]
      constructor
      · intro texts place name meets
        cases meets with
        | here member => exact (exists_standing_iff.mp (texts name member)).1
        | inside member leads rest =>
            have inner := (exists_standing_iff.mp (texts _ member)).2 _ _ leads
            exact (ih _ member _ _ leads).mp inner place name rest
      · intro clear name member
        apply exists_standing_iff.mpr
        refine ⟨clear directory name (.here member), ?_⟩
        intro location inner leads
        apply (ih name member location inner leads).mpr
        intro place met rest
        exact clear place met (.inside member leads rest)

section Guarded

variable {maxDepth : Nat} {stack : List Text} {directory : Location}

theorem outcome_become_of_not_cut {name : Text}
    (uncut : ∀ location, views.findInclude name directory = .ok location →
      ¬ IsCut maxDepth stack location) :
    (views.become tree maxDepth stack directory name).outcome =
      views.standing tree
        (fun location =>
          match tree.finding location with
          | .file content =>
              (views.expand tree maxDepth (stack ++ [Location.text location]) location.dropLast
                content).outcome
          | _ => .ok [])
        directory name := by
  unfold become standing
  cases found : views.findInclude name directory with
  | error fault => cases fault <;> rfl
  | ok location =>
      dsimp only
      rw [if_neg (uncut location found), includeFile_eq]
      cases tree.finding location <;> rfl

theorem mem_log_become_of_not_cut {name : Text} {notice : Notice}
    (uncut : ∀ location, views.findInclude name directory = .ok location →
      ¬ IsCut maxDepth stack location)
    (member : notice ∈ (views.become tree maxDepth stack directory name).log) :
    (∃ target, notice = .includeMissing target) ∨ (∃ fault, notice = .includeFailed name fault) ∨
      ∃ location content, views.LeadsTo tree directory name location content ∧
        notice ∈ (views.expand tree maxDepth (stack ++ [Location.text location])
          location.dropLast content).log := by
  unfold become at member
  cases found : views.findInclude name directory with
  | error fault =>
      rw [found] at member
      cases fault with
      | viewNotFound view => exact .inl ⟨name, List.mem_singleton.mp member⟩
      | _ => exact absurd member List.not_mem_nil
  | ok location =>
      rw [found] at member
      dsimp only at member
      rw [if_neg (uncut location found), includeFile_eq] at member
      cases here : tree.finding location with
      | barred fault => rw [here] at member; exact absurd member List.not_mem_nil
      | nothing => rw [here] at member; exact .inl ⟨_, List.mem_singleton.mp member⟩
      | unreadable fault =>
          rw [here] at member
          exact .inr (.inl ⟨fault, List.mem_singleton.mp member⟩)
      | file content =>
          rw [here] at member
          exact .inr (.inr ⟨location, content, ⟨found, here⟩, member⟩)

end Guarded

/-- Whether the guards have nothing to do: no chain of includes leads to a file
twice, meets a file that is being expanded, or has too many files. -/
def Unrepeated (views : Views) (tree : FileTree) (maxDepth : Nat) (stack : List Text)
    (directory : Location) (content : Text) : Prop :=
  ∀ places, views.Chain tree directory content places →
    places.Nodup ∧ (∀ place ∈ places, place ∉ stack) ∧ stack.length + places.length ≤ maxDepth

variable {maxDepth : Nat} {stack : List Text} {directory : Location} {content : Text}

theorem Unrepeated.not_cut (unrepeated : views.Unrepeated tree maxDepth stack directory content)
    {name : Text} (member : name ∈ includeNames content) {location : Location}
    (found : views.findInclude name directory = .ok location) :
    ¬ IsCut maxDepth stack location := by
  obtain ⟨_, apart, fits⟩ := unrepeated _ (.last member found)
  rw [List.length_singleton] at fits
  rintro (filled | inside)
  · omega
  · exact apart _ (List.mem_singleton_self _) inside

theorem Unrepeated.inside (unrepeated : views.Unrepeated tree maxDepth stack directory content)
    {name inner : Text} (member : name ∈ includeNames content) {location : Location}
    (leads : views.LeadsTo tree directory name location inner) :
    views.Unrepeated tree maxDepth (stack ++ [Location.text location]) location.dropLast inner := by
  intro places chain
  obtain ⟨distinct, apart, fits⟩ := unrepeated _ (.further member leads chain)
  obtain ⟨fresh, distinct⟩ := List.nodup_cons.mp distinct
  refine ⟨distinct, ?_, ?_⟩
  · intro place among inside
    rcases List.mem_append.mp inside with before | last
    · exact apart place (List.mem_cons_of_mem _ among) before
    · exact fresh (List.mem_singleton.mp last ▸ among)
  · rw [List.length_cons] at fits
    rw [List.length_append, List.length_singleton]
    omega

theorem unrepeated_of_flat (room : stack.length < maxDepth)
    (fresh : ∀ name ∈ includeNames content, ∀ location,
      views.findInclude name directory = .ok location → Location.text location ∉ stack)
    (flat : ∀ name ∈ includeNames content, ∀ location inner,
      views.LeadsTo tree directory name location inner → includeNames inner = []) :
    views.Unrepeated tree maxDepth stack directory content := by
  have single : ∀ name ∈ includeNames content, ∀ location,
      views.findInclude name directory = .ok location →
        [Location.text location].Nodup ∧ (∀ place ∈ [Location.text location], place ∉ stack) ∧
          stack.length + [Location.text location].length ≤ maxDepth := by
    intro name member location found
    refine ⟨List.nodup_cons.mpr ⟨List.not_mem_nil, List.nodup_nil⟩, ?_, room⟩
    intro place among
    rw [List.mem_singleton.mp among]
    exact fresh name member location found
  intro places chain
  cases chain with
  | last member found => exact single _ member _ found
  | further member leads rest =>
      have none := flat _ member _ _ leads
      cases rest with
      | last deeper => rw [none] at deeper; exact absurd deeper List.not_mem_nil
      | further deeper => rw [none] at deeper; exact absurd deeper List.not_mem_nil

/-- Guards that have nothing to do change nothing, and nothing is written about
recursion. -/
theorem Unrepeated.inlines (unrepeated : views.Unrepeated tree maxDepth stack directory content) :
    views.Inlines tree directory content
        (views.expand tree maxDepth stack directory content).outcome ∧
      ∀ target, .includeRecursive target ∉
        (views.expand tree maxDepth stack directory content).log := by
  -- Each file on the stack takes up room; without room no include is met at all.
  induction room : maxDepth - stack.length using Nat.strongRecOn
    generalizing stack directory content with
  | ind room ih =>
      have deeper : ∀ name ∈ includeNames content, ∀ location inner,
          views.LeadsTo tree directory name location inner →
            views.Inlines tree location.dropLast inner
                (views.expand tree maxDepth (stack ++ [Location.text location]) location.dropLast
                  inner).outcome ∧
              ∀ target, .includeRecursive target ∉
                (views.expand tree maxDepth (stack ++ [Location.text location]) location.dropLast
                  inner).log := by
        intro name member location inner leads
        have fits : ¬ maxDepth ≤ stack.length :=
          fun filled => unrepeated.not_cut member leads.1 (.inl filled)
        refine ih _ ?_ (unrepeated.inside member leads) rfl
        rw [← room, List.length_append, List.length_singleton]
        omega
      rw [expand_eq]
      constructor
      · rw [outcome_expandPieces, joined_written_congr fun name member =>
          outcome_become_of_not_cut fun location found => unrepeated.not_cut member found]
        refine .whole fun name member location inner leads => ?_
        rw [leads.2]
        exact (deeper name member location inner leads).1
      · intro target written
        obtain ⟨piece, among, inside⟩ := Logged.mem_log_concat written
        cases piece with
        | plain char => exact absurd inside List.not_mem_nil
        | token raw header =>
            have member := mem_includeNames among
            rcases mem_log_become_of_not_cut
                (fun location found => unrepeated.not_cut member found) inside with
              ⟨_, impossible⟩ | ⟨_, impossible⟩ | ⟨location, inner, leads, deep⟩
            · exact absurd impossible (by simp)
            · exact absurd impossible (by simp)
            · exact (deeper _ member location inner leads).2 target deep

/-- An expansion whose guards have nothing to do is one without guards.  It
gives a text exactly if every include that is met can be looked up. -/
theorem expand_of_unrepeated
    (unrepeated : views.Unrepeated tree maxDepth stack directory content) :
    views.Inlines tree directory content
        (views.expand tree maxDepth stack directory content).outcome ∧
      (∀ other, views.Inlines tree directory content other →
        other = (views.expand tree maxDepth stack directory content).outcome) ∧
      ((∃ text, (views.expand tree maxDepth stack directory content).outcome = .ok text) ↔
        ∀ place name, views.Meets tree directory content place name →
          ¬ views.IsRefused tree place name) ∧
      ∀ target, .includeRecursive target ∉
        (views.expand tree maxDepth stack directory content).log := by
  obtain ⟨inlines, silent⟩ := unrepeated.inlines
  exact ⟨inlines, fun other inlined => inlined.unique inlines, inlines.exists_text_iff, silent⟩

/-- Views below a directory of their own. -/
def pages : Views :=
  ⟨["views".toList], ".html".toList⟩

def partTree : FileTree :=
  ⟨[(["views".toList, "part.html".toList], Utf8.encode "P".toList)], [["views".toList]]⟩

/-- The name of a file that no file system looks for. -/
def longName : Text :=
  List.replicate 256 'a'

theorem includeNames_partTree {location : Location} {content : Text}
    (found : partTree.finding location = .file content) : includeNames content = [] := by
  obtain ⟨bytes, there, decoded⟩ := FileTree.exists_of_finding_eq_file found
  rw [FileTree.content?, partTree, List.lookup_cons] at there
  split at there
  · injection there with same
    have text : FileTree.textOf bytes = .ok "P".toList := by
      rw [← same]
      decide +kernel
    rw [text] at decoded
    injection decoded with same
    rw [← same]
    decide +kernel
  · exact absurd there (by simp)

/-- The file is put in the place of each of its includes, while an include of a
file that cannot be looked for leaves no text. -/
theorem expand_parts :
    pages.Inlines partTree pages.root "{{include:part}}, {{include:./part}}".toList
        (.ok "P, P".toList) ∧
      pages.Inlines partTree pages.root (Tag.includeOpening ++ longName ++ Tag.closing)
        (.error (.file (.nameTooLong
          (Location.text ["views".toList, longName ++ ".html".toList])))) := by
  have unrepeated : ∀ content : Text,
      pages.Unrepeated partTree 32 [] pages.root content := fun _ =>
    unrepeated_of_flat (by decide) (fun _ _ _ _ => List.not_mem_nil)
      (fun _ _ _ _ leads => includeNames_partTree leads.2)
  have siblings := expand_of_unrepeated (unrepeated "{{include:part}}, {{include:./part}}".toList)
  have unfound :=
    expand_of_unrepeated (unrepeated (Tag.includeOpening ++ longName ++ Tag.closing))
  refine ⟨?_, ?_⟩
  · have text : (pages.expand partTree 32 [] pages.root
        "{{include:part}}, {{include:./part}}".toList).outcome = .ok "P, P".toList := by
      decide +kernel
    exact text ▸ siblings.1
  · have text : (pages.expand partTree 32 [] pages.root
        (Tag.includeOpening ++ longName ++ Tag.closing)).outcome = .error (.file (.nameTooLong
          (Location.text ["views".toList, longName ++ ".html".toList]))) := by
      decide +kernel
    exact text ▸ unfound.1

end Stencil.Views
