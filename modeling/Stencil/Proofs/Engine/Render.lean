import Stencil.Engine
import Stencil.Proofs.View.Places

/-!
# Rendering a view

A render opens the file of the view, takes its body from the cache or loads it
from the file, and processes the body.  Only the cache of the engine changes,
and only by a body that was loaded.  Without a file a render fails whatever the
cache holds.
-/

namespace Stencil

namespace Engine

variable (engine : Engine) (tree : FileTree)

/-- The body of a file with its includes expanded, apart from the log. -/
def body (location : Location) (bytes : Bytes) : Except Fault Text := do
  let content ← FileTree.textOf bytes
  (engine.views.expand tree engine.config.maxIncludeDepth [Location.text location]
    location.dropLast content).outcome

/-- What a view renders to if its file is opened, loaded and processed. -/
def fromFiles (options : Options) (data : Entries) (view : Text) : Except Fault Text := do
  let (location, bytes) ← engine.open? tree view
  let body ← engine.body tree location bytes
  (engine.process options data body).outcome

/-- Whether a view has its file at a place with a given text, and a given body
is loaded from it. -/
def Loads (view key body : Text) : Prop :=
  ∃ location bytes, engine.open? tree view = .ok (location, bytes) ∧
    Location.text location = key ∧ engine.body tree location bytes = .ok body

/-- Whether the file system cannot look for the file of a view: there is a NUL
in its path, or a name that is too long. -/
def CannotLook (view : Text) : Prop :=
  engine.views.HasNul view ∨
    ∃ location, engine.views.find view = .ok location ∧ tree.Refuses location

variable {engine tree}

theorem open?_cases (engine : Engine) (tree : FileTree) (view : Text) :
    (∃ location bytes, engine.open? tree view = .ok (location, bytes) ∧
        engine.views.find view = .ok location ∧ tree.read? location = .ok (some bytes)) ∨
      (∃ name, engine.open? tree view = .error (.viewNotFound name) ∧
        ¬ engine.CannotLook tree view) ∨
      (∃ fault, engine.open? tree view = .error fault ∧ (∀ name, fault ≠ .viewNotFound name) ∧
        engine.CannotLook tree view) := by
  rcases engine.views.find_cases view with
    ⟨missing, noNul⟩ | ⟨nul, hasNul⟩ | ⟨rest, found, noNul, _⟩
  · refine .inr (.inl ⟨view, by rw [open?, missing]; rfl, ?_⟩)
    rintro (hasNul | ⟨location, found, _⟩)
    · exact noNul hasNul
    · rw [missing] at found
      exact absurd found (by simp)
  · exact .inr (.inr ⟨.nulInPath, by rw [open?, nul]; rfl, by simp, .inl hasNul⟩)
  · have opened : engine.open? tree view = _ := congrArg (· >>= _) found
    rcases tree.read?_cases (engine.views.root ++ rest) with
      ⟨⟨content, read⟩, clear⟩ | ⟨⟨path, read⟩, refuses⟩
    · have looks : ¬ engine.CannotLook tree view := by
        rintro (hasNul | ⟨location, foundToo, refuses⟩)
        · exact noNul hasNul
        · rw [found] at foundToo
          cases foundToo
          exact clear refuses
      rw [opened]
      cases content with
      | none => exact .inr (.inl ⟨_, by simp only [bind, Except.bind, read]; rfl, looks⟩)
      | some bytes => exact .inl ⟨_, bytes, by simp only [bind, Except.bind, read]; rfl, found, read⟩
    · rw [opened]
      exact .inr (.inr ⟨.file (.nameTooLong path), by simp only [bind, Except.bind, read], by simp,
        .inr ⟨_, found, refuses⟩⟩)

theorem found_of_open? {view : Text} {location : Location} {bytes : Bytes}
    (opened : engine.open? tree view = .ok (location, bytes)) :
    engine.views.find view = .ok location ∧ tree.read? location = .ok (some bytes) := by
  rcases engine.open?_cases tree view with
    ⟨place, content, openedToo, found⟩ | ⟨name, failed, _⟩ | ⟨fault, failed, _⟩
  · rw [opened] at openedToo
    cases openedToo
    exact found
  · rw [opened] at failed
    exact absurd failed (by simp)
  · rw [opened] at failed
    exact absurd failed (by simp)

/-- A view without a file is not found, unless the file system cannot look for
the file. -/
theorem viewNotFound_iff {view : Text} {fault : Fault}
    (absent : engine.open? tree view = .error fault) :
    (∃ name, fault = .viewNotFound name) ↔ ¬ engine.CannotLook tree view := by
  rcases engine.open?_cases tree view with
    ⟨location, bytes, opened, _⟩ | ⟨name, missing, looks⟩ | ⟨other, failed, differs, cannot⟩
  · rw [absent] at opened
    exact absurd opened (by simp)
  · rw [absent] at missing
    cases missing
    exact ⟨fun _ => looks, fun _ => ⟨name, rfl⟩⟩
  · rw [absent] at failed
    cases failed
    constructor
    · rintro ⟨name, same⟩
      exact absurd same (differs name)
    · intro looks
      exact absurd cannot looks

theorem outcome_load (options : Options) (view : Text) (location : Location) (bytes : Bytes) :
    (engine.load tree options view location bytes).outcome = engine.body tree location bytes := by
  rw [load, body, Logged.outcome_bind, Logged.outcome_lift]
  cases FileTree.textOf bytes with
  | error fault => rfl
  | ok content =>
      show Logged.outcome _ = _
      cases options.validateSyntax with
      | false => rfl
      | true =>
          show (reportProblems view content >>= fun _ => _).outcome = _
          rw [Logged.outcome_bind, reportProblems]
          cases Check.messages content <;> rfl

section Render

variable {options : Options} (data : Entries) {view : Text}

theorem render_of_open?_eq_error (options : Options) {fault : Fault}
    (absent : engine.open? tree view = .error fault) :
    engine.render tree options data view = (engine, Logged.fail fault) := by
  rw [render, absent]

/-- A body in the cache is processed, and the engine stays as it is. -/
theorem render_of_kept {location : Location} {bytes : Bytes} {kept : Text}
    (opened : engine.open? tree view = .ok (location, bytes))
    (uses : engine.usesCache options = true)
    (found : engine.cache.get? (Location.text location) = some kept) :
    (engine.render tree options data view).2.outcome =
        (engine.process options data kept).outcome ∧
      (engine.render tree options data view).1 = engine := by
  rw [render, opened]
  simp only [uses, if_true, found]
  exact ⟨rfl, trivial⟩

/-- Without a body in the cache the file is loaded; the body is kept if the
cache is used and loading succeeds. -/
theorem render_of_not_kept {location : Location} {bytes : Bytes}
    (opened : engine.open? tree view = .ok (location, bytes))
    (fresh : engine.usesCache options = true →
      engine.cache.get? (Location.text location) = none) :
    (engine.render tree options data view).2.outcome =
        engine.fromFiles tree options data view ∧
      (engine.render tree options data view).1 =
        match engine.usesCache options, engine.body tree location bytes with
        | true, .ok loaded =>
            { engine with cache := engine.cache.keep (Location.text location) loaded }
        | _, _ => engine := by
  have nothing : (if engine.usesCache options then
      engine.cache.get? (Location.text location) else none) = none := by
    split
    · next uses => exact fresh uses
    · rfl
  have loaded : (engine.load tree options view location bytes).outcome =
      engine.body tree location bytes := outcome_load options view location bytes
  have files : engine.fromFiles tree options data view =
      (engine.body tree location bytes).bind fun loaded =>
        (engine.process options data loaded).outcome := by
    rw [fromFiles, opened]
    rfl
  have rendered : (engine.load tree options view location bytes >>= fun content =>
      engine.process options data content).outcome = engine.fromFiles tree options data view := by
    rw [Logged.outcome_bind, loaded, files]
  rw [render, opened]
  simp only [nothing, loaded]
  cases engine.body tree location bytes with
  | error fault => exact ⟨rendered, by cases engine.usesCache options <;> rfl⟩
  | ok content =>
      cases engine.usesCache options with
      | false => exact ⟨rendered, rfl⟩
      | true => exact ⟨rendered, rfl⟩

theorem render_of_not_usesCache (tree : FileTree) (view : Text)
    (unused : engine.usesCache options = false) :
    (engine.render tree options data view).2.outcome =
        engine.fromFiles tree options data view ∧
      (engine.render tree options data view).1 = engine := by
  cases opened : engine.open? tree view with
  | error fault =>
      rw [render_of_open?_eq_error data options opened, fromFiles, opened]
      exact ⟨rfl, rfl⟩
  | ok file =>
      obtain ⟨location, bytes⟩ := file
      obtain ⟨outcome, after⟩ := render_of_not_kept data opened fun uses =>
        absurd uses (by rw [unused]; decide)
      refine ⟨outcome, ?_⟩
      rw [after, unused]

/-- A render changes nothing but the cache. -/
theorem exists_cache_render (tree : FileTree) (options : Options) (data : Entries) (view : Text) :
    ∃ cache, (engine.render tree options data view).1 = { engine with cache := cache } := by
  rw [render]
  split
  · exact ⟨engine.cache, rfl⟩
  · dsimp only
    split
    · exact ⟨engine.cache, rfl⟩
    · split
      · split
        · exact ⟨_, rfl⟩
        · exact ⟨engine.cache, rfl⟩
      · exact ⟨engine.cache, rfl⟩

/-- A render keeps what is in the cache, and keeps the body that it loads if
there was none for its place. -/
theorem get?_render (tree : FileTree) (options : Options) (data : Entries) (view key kept : Text) :
    (engine.render tree options data view).1.cache.get? key = some kept ↔
      engine.cache.get? key = some kept ∨
        engine.cache.get? key = none ∧ engine.usesCache options = true ∧
          engine.Loads tree view key kept := by
  cases opened : engine.open? tree view with
  | error fault =>
      have nowhere : ¬ engine.Loads tree view key kept := by
        rintro ⟨location, bytes, openedToo, _⟩
        rw [opened] at openedToo
        exact absurd openedToo (by simp)
      rw [render_of_open?_eq_error data options opened]
      simp [nowhere]
  | ok file =>
      obtain ⟨location, bytes⟩ := file
      have loads : engine.Loads tree view key kept ↔
          Location.text location = key ∧ engine.body tree location bytes = .ok kept := by
        constructor
        · rintro ⟨place, content, openedToo, same, body⟩
          rw [opened] at openedToo
          cases openedToo
          exact ⟨same, body⟩
        · rintro ⟨same, body⟩
          exact ⟨location, bytes, opened, same, body⟩
      rw [loads]
      cases found : engine.cache.get? (Location.text location) with
      | some old =>
          -- Nothing is loaded, and no other place is touched.
          have same : (engine.render tree options data view).1 = engine := by
            cases uses : engine.usesCache options with
            | false => exact (render_of_not_usesCache data tree view uses).2
            | true => exact (render_of_kept data opened uses found).2
          rw [same]
          constructor
          · exact .inl
          · rintro (kept | ⟨missing, _, rfl, _⟩)
            · exact kept
            · rw [missing] at found
              exact absurd found (by simp)
      | none =>
          rw [(render_of_not_kept data opened fun _ => found).2]
          cases uses : engine.usesCache options with
          | false => simp
          | true =>
              cases body : engine.body tree location bytes with
              | error fault => simp
              | ok loaded =>
                  by_cases same : key = Location.text location
                  · subst same
                    simp [Cache.get?_keep_self, found]
                  · simp [Cache.get?_keep_of_ne same, Ne.symm same]

end Render

end Engine

end Stencil
