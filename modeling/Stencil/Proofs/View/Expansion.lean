import Stencil.Proofs.Template.Passes
import Stencil.Proofs.View.Places
import Stencil.View.Include

/-!
# Expanding includes

What is found at the place of an include depends on the files and not on what
is being expanded.  An expansion puts the texts of the files in the places of
their includes, and leaves out a file that is being expanded already or that is
one too many inside the others.  Nothing else is known of it in what follows.
-/

namespace Stencil

namespace FileTree

/-- What is found at a place. -/
inductive Finding where
  /-- Whether a file is there cannot be told. -/
  | barred (fault : Fault)
  | nothing
  /-- A file that is no text. -/
  | unreadable (fault : Fault)
  | file (content : Text)

def finding (tree : FileTree) (location : Location) : Finding :=
  match tree.read? location with
  | .error fault => .barred fault
  | .ok none => .nothing
  | .ok (some bytes) =>
      match textOf bytes with
      | .ok content => .file content
      | .error fault => .unreadable fault

theorem content?_of_find? {tree : FileTree} {directory : Location} {names : List Text}
    {bytes : Bytes} (found : tree.find? directory names = .ok (some bytes)) :
    tree.content? (directory ++ names) = some bytes := by
  induction names generalizing directory with
  | nil => exact absurd found (by simp [find?])
  | cons name names ih =>
      rw [find?] at found
      split at found
      · exact absurd found (by simp)
      · split at found
        · exact absurd found (by simp)
        · split at found
          · rename_i last
            rw [last]
            exact Except.ok.inj found
          · have there := ih found
            rwa [List.append_assoc] at there

theorem exists_of_finding_eq_file {tree : FileTree} {location : Location} {content : Text}
    (found : tree.finding location = .file content) :
    ∃ bytes, tree.content? location = some bytes ∧ textOf bytes = .ok content := by
  rw [finding] at found
  cases read : tree.read? location with
  | error fault => rw [read] at found; exact absurd found (by simp)
  | ok file =>
      rw [read] at found
      cases file with
      | none => exact absurd found (by simp)
      | some bytes =>
          dsimp only at found
          refine ⟨bytes, ?_, ?_⟩
          · rw [read?] at read
            split at read
            · exact absurd read (by simp)
            · exact content?_of_find? read
          · cases decoded : textOf bytes with
            | error fault => rw [decoded] at found; exact absurd found (by simp)
            | ok text =>
                rw [decoded] at found
                injection found with same
                rw [same]

end FileTree

namespace Views

/-- The names in the include tags of a text. -/
def includeNames (content : Text) : List Text :=
  (Tag.includeTag.tokens content).map Text.trim

theorem mem_includeNames {content raw header : Text}
    (member : Piece.token raw header ∈ Tag.includeTag.pieces content) :
    Text.trim header ∈ includeNames content :=
  List.mem_map_of_mem (List.mem_filterMap.mpr ⟨_, member, rfl⟩)

theorem includeFile_eq (tree : FileTree) (expand : Location → Text → Logged Text) (name : Text)
    (location : Location) :
    includeFile tree expand name location =
      match tree.finding location with
      | .barred fault => Logged.fail fault
      | .nothing => includeMissing (Location.text location) name
      | .unreadable fault => includeFailed fault name
      | .file content => expand location.dropLast content := by
  rw [includeFile, FileTree.finding]
  rcases tree.read? location with fault | _ | bytes
  · rfl
  · rfl
  · rw [Logged.lift_ok_bind]
    dsimp only
    cases FileTree.textOf bytes <;> rfl

/-- Whether an include of the file at a place is left out: too many files are
inside each other, or the file is among them. -/
def IsCut (maxDepth : Nat) (stack : List Text) (location : Location) : Prop :=
  maxDepth ≤ stack.length ∨ Location.text location ∈ stack

instance (maxDepth : Nat) (stack : List Text) (location : Location) :
    Decidable (IsCut maxDepth stack location) :=
  inferInstanceAs (Decidable (_ ∨ _))

/-- Whether an include in a file of a directory leads to a file with a text. -/
def LeadsTo (views : Views) (tree : FileTree) (directory : Location) (name : Text)
    (location : Location) (content : Text) : Prop :=
  views.findInclude name directory = .ok location ∧ tree.finding location = .file content

variable (views : Views) (tree : FileTree) (maxDepth : Nat) (stack : List Text)
  (directory : Location)

/-- What an include becomes in an expansion. -/
def become (name : Text) : Logged Text :=
  match views.findInclude name directory with
  | .error (.viewNotFound _) => includeMissing name name
  | .error fault => Logged.fail fault
  | .ok location =>
      if IsCut maxDepth stack location then includeRecursive (Location.text location) name
      else
        includeFile tree (views.expand tree maxDepth (stack ++ [Location.text location])) name
          location

/-- An expansion within the room that is left is one without a count. -/
theorem expand_eq (content : Text) :
    views.expand tree maxDepth stack directory content =
      expandPieces (views.become tree maxDepth stack directory) content := by
  rw [expand]
  have same : ∀ expand, (∀ name, views.inline tree expand stack directory name =
      views.become tree maxDepth stack directory name) →
        expandPieces (views.inline tree expand stack directory) content =
          expandPieces (views.become tree maxDepth stack directory) content := by
    intro expand each
    rw [funext each]
  cases left : maxDepth - stack.length with
  | zero =>
      have cut : ∀ location, IsCut maxDepth stack location := fun _ => .inl (by omega)
      apply same
      intro name
      rw [inline, become]
      rcases views.findInclude name directory with fault | location
      · cases fault <;> rfl
      · exact (if_pos (cut location)).symm
  | succ room =>
      have deeper : ∀ key, views.expandWithin tree room (stack ++ [key]) =
          views.expand tree maxDepth (stack ++ [key]) := by
        intro key
        have less : maxDepth - (stack ++ [key]).length = room := by
          rw [List.length_append, List.length_singleton]
          omega
        funext directory content
        rw [expand, less]
      apply same
      intro name
      rw [inline, become]
      rcases views.findInclude name directory with fault | location
      · cases fault <;> rfl
      · have guard : IsCut maxDepth stack location ↔
            stack.contains (Location.text location) = true := by
          have shallow : ¬ maxDepth ≤ stack.length := by omega
          simp [IsCut, shallow]
        simp only [guard, deeper]

/-- What a piece of a text becomes apart from the log, if `own` tells what the
includes become. -/
def written (own : Text → Except Fault Text) : Piece Text → Except Fault Text
  | .plain char => .ok [char]
  | .token _ header => own (Text.trim header)

theorem outcome_expandPieces (inline : Text → Logged Text) (content : Text) :
    (expandPieces inline content).outcome =
      joined (written fun name => (inline name).outcome) (Tag.includeTag.pieces content) := by
  rw [expandPieces, Logged.outcome_concat]
  congr 1
  funext piece
  cases piece <;> rfl

theorem exists_joined_iff {render : α → Except Fault Text} {list : List α} :
    (∃ text, joined render list = .ok text) ↔ ∀ member ∈ list, ∃ text, render member = .ok text := by
  induction list with
  | nil => simp [joined]
  | cons first later ih =>
      rw [List.forall_mem_cons, ← ih, joined]
      cases render first with
      | error fault => simp [together, bind, Except.bind]
      | ok text =>
          cases joined render later with
          | error fault => simp [together, bind, Except.bind]
          | ok rest => simp

/-- An expansion gives a text exactly if each include becomes one. -/
theorem exists_joined_written_iff {own : Text → Except Fault Text} {content : Text} :
    (∃ text, joined (written own) (Tag.includeTag.pieces content) = .ok text) ↔
      ∀ name ∈ includeNames content, ∃ text, own name = .ok text := by
  rw [exists_joined_iff]
  constructor
  · intro each name member
    obtain ⟨header, among, rfl⟩ := List.mem_map.mp member
    obtain ⟨piece, here, said⟩ := List.mem_filterMap.mp among
    cases piece with
    | plain char => exact absurd said (by simp [Piece.token?])
    | token raw found =>
        cases said
        exact each _ here
  · intro each piece member
    cases piece with
    | plain char => exact ⟨[char], rfl⟩
    | token raw header => exact each _ (mem_includeNames member)

theorem joined_written_congr {own other : Text → Except Fault Text} {content : Text}
    (same : ∀ name ∈ includeNames content, own name = other name) :
    joined (written own) (Tag.includeTag.pieces content) =
      joined (written other) (Tag.includeTag.pieces content) := by
  have each : ∀ piece ∈ Tag.includeTag.pieces content, written own piece = written other piece := by
    intro piece member
    cases piece with
    | plain char => rfl
    | token raw header => exact same _ (mem_includeNames member)
  generalize Tag.includeTag.pieces content = pieces at each
  induction pieces with
  | nil => rfl
  | cons piece pieces ih =>
      rw [joined, joined, each piece List.mem_cons_self,
        ih fun other member => each other (List.mem_cons_of_mem piece member)]

end Views

end Stencil
