import Mathlib.Data.List.Induction
import Stencil.Proofs.Engine.Render

/-!
# Sessions

A session is an engine and the files that it sees, while files are written and
deleted and views are rendered.  What the cache holds is told by the history of
the session alone: for the place of a view it is the body that the first render
with the cache loaded, since the cache was last cleared.  While no file changes,
no render can be told from one of a fresh engine that does not use its cache.
-/

namespace Stencil

/-- What can happen in a session. -/
inductive Action where
  | write (location : Location) (content : Bytes)
  | delete (location : Location)
  | render (options : Options) (data : Entries) (view : Text)
  | renderText (options : Options) (data : Entries) (template : Text)
  | clearCache

namespace Action

def touchesFiles : Action → Bool
  | write .. | delete .. => true
  | render .. | renderText .. | clearCache => false

end Action

/-- An engine and the files that it sees. -/
structure Session where
  engine : Engine
  tree : FileTree

namespace Session

/-- The session after an action.  Files stay as they are if they cannot be
written or deleted. -/
def step (session : Session) : Action → Session
  | .write location content =>
      { session with tree := (session.tree.write location content).toOption.getD session.tree }
  | .delete location =>
      { session with tree := (session.tree.delete location).toOption.getD session.tree }
  | .render options data view =>
      { session with engine := (session.engine.render session.tree options data view).1 }
  | .renderText .. => session
  | .clearCache => { session with engine := session.engine.clearCache }

def run (session : Session) (actions : List Action) : Session :=
  actions.foldl step session

def rendered (session : Session) (options : Options) (data : Entries) (view : Text) :
    Except Fault Text :=
  (session.engine.render session.tree options data view).2.outcome

/-- What a view renders to with a fresh engine that does not use its cache. -/
def renderedFresh (session : Session) (options : Options) (data : Entries) (view : Text) :
    Except Fault Text :=
  (session.engine.clearCache.render session.tree { options with cacheEnabled := some false } data
    view).2.outcome

/-- Whether an action is a render with the cache that loads a body for a place,
from the files of the session. -/
def IsLoading (session : Session) (key body : Text) : Action → Prop
  | .render options _ view =>
      session.engine.usesCache options = true ∧ session.engine.Loads session.tree view key body
  | .write .. | .delete .. | .renderText .. | .clearCache => False

/-- Whether a body for a place is the one that was loaded first since the cache
was last cleared. -/
def FirstLoaded (session : Session) (actions : List Action) (key body : Text) : Prop :=
  ∃ before action after, actions = before ++ action :: after ∧ Action.clearCache ∉ after ∧
    (session.run before).IsLoading key body action ∧
    ∀ earlier other between, before = earlier ++ other :: between →
      Action.clearCache ∉ between → ∀ old, ¬ (session.run earlier).IsLoading key old other

variable {session : Session}

theorem run_concat (session : Session) (actions : List Action) (action : Action) :
    session.run (actions ++ [action]) = (session.run actions).step action := by
  rw [run, run, List.foldl_append]
  rfl

theorem exists_cache_run (session : Session) (actions : List Action) :
    ∃ cache, (session.run actions).engine = { session.engine with cache := cache } := by
  induction actions using List.reverseRecOn with
  | nil => exact ⟨session.engine.cache, rfl⟩
  | append_singleton actions action ih =>
      obtain ⟨cache, before⟩ := ih
      rw [run_concat]
      cases action with
      | write location content => exact ⟨cache, before⟩
      | delete location => exact ⟨cache, before⟩
      | render options data view =>
          obtain ⟨after, rendered⟩ := (session.run actions).engine.exists_cache_render
            (session.run actions).tree options data view
          exact ⟨after, by rw [step, rendered, before]⟩
      | renderText options data template => exact ⟨cache, before⟩
      | clearCache => exact ⟨[], by rw [step, Engine.clearCache, before]⟩

theorem get?_step (action : Action) (key body : Text) :
    (session.step action).engine.cache.get? key = some body ↔
      action ≠ .clearCache ∧ (session.engine.cache.get? key = some body ∨
        session.engine.cache.get? key = none ∧ session.IsLoading key body action) := by
  cases action with
  | write location content => simp [step, IsLoading]
  | delete location => simp [step, IsLoading]
  | render options data view =>
      simpa [step, IsLoading] using
        session.engine.get?_render session.tree options data view key body
  | renderText options data template => simp [step, IsLoading]
  | clearCache => simp [step, Engine.clearCache, Cache.get?]

/-- If anything was loaded for a place since the cache was last cleared, then
something was loaded first. -/
theorem exists_firstLoaded {key body : Text} {before after : List Action} {action : Action}
    (uncleared : Action.clearCache ∉ after)
    (loads : (session.run before).IsLoading key body action) :
    ∃ first, session.FirstLoaded (before ++ action :: after) key first := by
  induction size : before.length using Nat.strongRecOn generalizing before action after body with
  | ind length ih =>
      by_cases sooner : ∃ earlier other between old, before = earlier ++ other :: between ∧
          Action.clearCache ∉ between ∧ (session.run earlier).IsLoading key old other
      · obtain ⟨earlier, other, between, old, split, clear, loadsOld⟩ := sooner
        have shorter : earlier.length < length := by
          rw [← size, split, List.length_append, List.length_cons]
          omega
        have noClear : Action.clearCache ∉ between ++ action :: after := by
          intro member
          rcases List.mem_append.mp member with inside | later
          · exact clear inside
          · rcases List.mem_cons.mp later with same | behind
            · rw [← same] at loads
              exact loads
            · exact uncleared behind
        obtain ⟨first, firstLoaded⟩ := ih earlier.length shorter noClear loadsOld rfl
        refine ⟨first, ?_⟩
        rw [split, List.append_assoc, List.cons_append]
        exact firstLoaded
      · refine ⟨body, before, action, after, rfl, uncleared, loads, ?_⟩
        intro earlier other between split clear old loadsOld
        exact sooner ⟨earlier, other, between, old, split, clear, loadsOld⟩

theorem firstLoaded_concat (session : Session) (actions : List Action) (action : Action)
    (key body : Text) :
    session.FirstLoaded (actions ++ [action]) key body ↔
      action ≠ .clearCache ∧ (session.FirstLoaded actions key body ∨
        (∀ old, ¬ session.FirstLoaded actions key old) ∧
          (session.run actions).IsLoading key body action) := by
  constructor
  · rintro ⟨before, loading, after, split, uncleared, loads, earliest⟩
    cases after using List.reverseRecOn with
    | nil =>
        obtain ⟨rfl, last⟩ := List.append_inj' split rfl
        cases last
        refine ⟨?_, .inr ⟨?_, loads⟩⟩
        · rintro rfl
          exact loads
        · rintro old ⟨earlier, other, between, rfl, clear, loadsOld, _⟩
          exact earliest earlier other between rfl clear old loadsOld
    | append_singleton after last =>
        rw [← List.cons_append, ← List.append_assoc] at split
        obtain ⟨rfl, same⟩ := List.append_inj' split rfl
        cases same
        refine ⟨?_, .inl ⟨before, loading, after, rfl, ?_, loads, earliest⟩⟩
        · rintro rfl
          exact uncleared (List.mem_append_right after List.mem_cons_self)
        · exact fun member => uncleared (List.mem_append_left _ member)
  · rintro ⟨kept, ⟨before, loading, after, rfl, uncleared, loads, earliest⟩ | ⟨none, loads⟩⟩
    · refine ⟨before, loading, after ++ [action], by simp, ?_, loads, earliest⟩
      intro member
      rcases List.mem_append.mp member with inside | last
      · exact uncleared inside
      · exact kept (List.mem_singleton.mp last).symm
    · refine ⟨actions, action, [], rfl, List.not_mem_nil, loads, ?_⟩
      rintro earlier other between rfl clear old loadsOld
      obtain ⟨first, firstLoaded⟩ := exists_firstLoaded clear loadsOld
      exact none first firstLoaded

/-- The cache holds exactly what was loaded first. -/
theorem get?_run (fresh : session.engine.cache = []) (actions : List Action) (key body : Text) :
    (session.run actions).engine.cache.get? key = some body ↔
      session.FirstLoaded actions key body := by
  induction actions using List.reverseRecOn generalizing body with
  | nil =>
      constructor
      · intro kept
        rw [run, List.foldl_nil, fresh] at kept
        exact absurd kept (by simp [Cache.get?])
      · rintro ⟨before, action, after, split, _⟩
        exact absurd split (by simp)
  | append_singleton actions action ih =>
      have none : (session.run actions).engine.cache.get? key = none ↔
          ∀ old, ¬ session.FirstLoaded actions key old := by
        rw [Option.eq_none_iff_forall_ne_some]
        exact forall_congr' fun old => not_congr (ih old)
      rw [run_concat, get?_step, firstLoaded_concat, ih, none]

theorem tree_step (session : Session) {action : Action} (unchanged : action.touchesFiles = false) :
    (session.step action).tree = session.tree := by
  cases action with
  | write location content => exact Bool.noConfusion unchanged
  | delete location => exact Bool.noConfusion unchanged
  | render options data view => rfl
  | renderText options data template => rfl
  | clearCache => rfl

/-- What has been loaded since the files last changed is what the files still
give. -/
theorem exists_loads {before after : List Action} {key body : Text}
    (unchanged : ∀ action ∈ after, action.touchesFiles = false)
    (none : ∀ old, ¬ session.FirstLoaded before key old)
    (first : session.FirstLoaded (before ++ after) key body) :
    ∃ view, session.engine.Loads (session.run (before ++ after)).tree view key body := by
  induction after using List.reverseRecOn with
  | nil =>
      rw [List.append_nil] at first
      exact absurd first (none body)
  | append_singleton after action ih =>
      rw [← List.append_assoc] at first ⊢
      rw [run_concat, tree_step _ (unchanged action (by simp))]
      rw [firstLoaded_concat] at first
      obtain ⟨_, earlier | ⟨_, loads⟩⟩ := first
      · exact ih (fun other member => unchanged other (List.mem_append_left _ member)) earlier
      · obtain ⟨cache, same⟩ := session.exists_cache_run (before ++ after)
        cases action with
        | render options data view =>
            refine ⟨view, ?_⟩
            have now := loads.2
            rw [same] at now
            exact now
        | write location content => exact loads.elim
        | delete location => exact loads.elim
        | renderText options data template => exact loads.elim
        | clearCache => exact loads.elim

theorem renderedFresh_eq (session : Session) (options : Options) (data : Entries) (view : Text) :
    session.renderedFresh options data view =
      session.engine.fromFiles session.tree options data view := by
  have unused : session.engine.clearCache.usesCache { options with cacheEnabled := some false } =
      false := rfl
  exact (Engine.render_of_not_usesCache data session.tree view unused).1

section Run

variable (actions : List Action) {options : Options} {data : Entries} {view : Text}

theorem open?_run (tree : FileTree) (view : Text) :
    (session.run actions).engine.open? tree view = session.engine.open? tree view := by
  obtain ⟨cache, same⟩ := session.exists_cache_run actions
  rw [same]
  rfl

theorem usesCache_run (options : Options) :
    (session.run actions).engine.usesCache options = session.engine.usesCache options := by
  obtain ⟨cache, same⟩ := session.exists_cache_run actions
  rw [same]
  rfl

theorem process_run (options : Options) (data : Entries) (template : Text) :
    (session.run actions).engine.process options data template =
      session.engine.process options data template := by
  obtain ⟨cache, same⟩ := session.exists_cache_run actions
  rw [same]
  rfl

theorem fromFiles_run (tree : FileTree) (options : Options) (data : Entries) (view : Text) :
    (session.run actions).engine.fromFiles tree options data view =
      session.engine.fromFiles tree options data view := by
  obtain ⟨cache, same⟩ := session.exists_cache_run actions
  rw [same]
  rfl

variable {actions}

/-- A render with the cache processes the body that was loaded first. -/
theorem rendered_of_firstLoaded (fresh : session.engine.cache = []) {location : Location}
    {bytes : Bytes} {body : Text}
    (opened : session.engine.open? (session.run actions).tree view = .ok (location, bytes))
    (uses : session.engine.usesCache options = true)
    (first : session.FirstLoaded actions (Location.text location) body) :
    (session.run actions).rendered options data view =
      (session.engine.process options data body).outcome := by
  rw [← open?_run actions] at opened
  rw [← usesCache_run actions] at uses
  have kept := (get?_run fresh actions (Location.text location) body).mpr first
  rw [← process_run actions]
  exact (Engine.render_of_kept data opened uses kept).1

theorem rendered_of_not_firstLoaded (fresh : session.engine.cache = []) {location : Location}
    {bytes : Bytes}
    (opened : session.engine.open? (session.run actions).tree view = .ok (location, bytes))
    (nothing : ∀ body, ¬ session.FirstLoaded actions (Location.text location) body) :
    (session.run actions).rendered options data view =
      session.engine.fromFiles (session.run actions).tree options data view := by
  rw [← open?_run actions] at opened
  have missing : (session.run actions).engine.cache.get? (Location.text location) = none := by
    rw [Option.eq_none_iff_forall_ne_some]
    intro body kept
    exact nothing body ((get?_run fresh actions (Location.text location) body).mp kept)
  rw [← fromFiles_run actions]
  exact (Engine.render_of_not_kept data opened fun _ => missing).1

theorem rendered_of_not_usesCache (unused : session.engine.usesCache options = false) :
    (session.run actions).rendered options data view =
        session.engine.fromFiles (session.run actions).tree options data view ∧
      (session.run actions).step (.render options data view) = session.run actions := by
  rw [← usesCache_run actions] at unused
  obtain ⟨outcome, after⟩ := Engine.render_of_not_usesCache data (session.run actions).tree view
    unused
  rw [fromFiles_run actions] at outcome
  refine ⟨outcome, ?_⟩
  rw [step, after]

/-- A render without a file fails, whatever the cache holds, and changes
nothing. -/
theorem rendered_of_open?_eq_error {fault : Fault}
    (absent : session.engine.open? (session.run actions).tree view = .error fault) :
    (session.run actions).rendered options data view = .error fault ∧
      (session.run actions).step (.render options data view) = session.run actions := by
  rw [← open?_run actions] at absent
  have failed := Engine.render_of_open?_eq_error data options absent
  rw [rendered, step, failed]
  exact ⟨rfl, rfl⟩

/-- While the files stay as they are, the cache makes no difference. -/
theorem rendered_eq_renderedFresh (fresh : session.engine.cache = []) {before after : List Action}
    (unchanged : ∀ action ∈ after, action.touchesFiles = false)
    (nothing : ∀ location, session.engine.views.find view = .ok location →
      ∀ body, ¬ session.FirstLoaded before (Location.text location) body) :
    (session.run (before ++ after)).rendered options data view =
      (session.run (before ++ after)).renderedFresh options data view := by
  rw [renderedFresh_eq, fromFiles_run]
  cases opened : session.engine.open? (session.run (before ++ after)).tree view with
  | error fault =>
      rw [(rendered_of_open?_eq_error opened).1, Engine.fromFiles, opened]
      rfl
  | ok file =>
      obtain ⟨location, bytes⟩ := file
      cases uses : session.engine.usesCache options with
      | false => exact (rendered_of_not_usesCache uses).1
      | true =>
          by_cases loaded : ∃ body,
              session.FirstLoaded (before ++ after) (Location.text location) body
          · obtain ⟨body, first⟩ := loaded
            obtain ⟨found, read⟩ := Engine.found_of_open? opened
            obtain ⟨other, place, content, openedThere, same, loadedThere⟩ :=
              exists_loads unchanged (nothing location found) first
            obtain ⟨foundThere, readThere⟩ := Engine.found_of_open? openedThere
            have itself : place = location :=
              session.engine.views.eq_of_text_eq foundThere found same
            subst itself
            rw [read] at readThere
            cases readThere
            rw [rendered_of_firstLoaded fresh opened uses first, Engine.fromFiles, opened]
            show _ = (session.engine.body _ place bytes).bind _
            rw [loadedThere]
            rfl
          · exact rendered_of_not_firstLoaded fresh opened fun body first => loaded ⟨body, first⟩

end Run

/-- Every render of a session is told by its history and its files. -/
theorem render_run (fresh : session.engine.cache = []) (actions : List Action) (options : Options)
    (data : Entries) (view : Text) :
    (∀ location bytes,
      session.engine.open? (session.run actions).tree view = .ok (location, bytes) →
        session.engine.usesCache options = true →
          (∀ body, session.FirstLoaded actions (Location.text location) body →
            (session.run actions).rendered options data view =
              (session.engine.process options data body).outcome) ∧
          ((∀ body, ¬ session.FirstLoaded actions (Location.text location) body) →
            (session.run actions).rendered options data view =
              session.engine.fromFiles (session.run actions).tree options data view)) ∧
    (session.engine.usesCache options = false →
      (session.run actions).rendered options data view =
          session.engine.fromFiles (session.run actions).tree options data view ∧
        (session.run actions).step (.render options data view) = session.run actions) ∧
    (∀ fault, session.engine.open? (session.run actions).tree view = .error fault →
      (session.run actions).rendered options data view = .error fault ∧
        (session.run actions).step (.render options data view) = session.run actions ∧
        ((∃ name, fault = .viewNotFound name) ↔
          ¬ session.engine.CannotLook (session.run actions).tree view)) ∧
    (∀ before after, actions = before ++ after →
      (∀ action ∈ after, action.touchesFiles = false) →
        (∀ location, session.engine.views.find view = .ok location →
          ∀ body, ¬ session.FirstLoaded before (Location.text location) body) →
          (session.run actions).rendered options data view =
            (session.run actions).renderedFresh options data view) := by
  refine ⟨?_, rendered_of_not_usesCache, ?_, ?_⟩
  · intro location bytes opened uses
    exact ⟨fun body first => rendered_of_firstLoaded fresh opened uses first,
      fun nothing => rendered_of_not_firstLoaded fresh opened nothing⟩
  · intro fault absent
    obtain ⟨failed, same⟩ := rendered_of_open?_eq_error absent
    exact ⟨failed, same, Engine.viewNotFound_iff absent⟩
  · rintro before after rfl unchanged nothing
    exact rendered_eq_renderedFresh fresh unchanged nothing

def homePlace : Location :=
  ["views".toList, "home.html".toList]

/-- A fresh engine that is told nothing, without files. -/
def blank : Session :=
  ⟨⟨Config.default, ["views".toList], [], Filter.builtin, Helper.builtin, none⟩, FileTree.empty⟩

/-- A view is rendered between two writes of its file. -/
def overwriting : List Action :=
  [.write homePlace (Utf8.encode "old".toList), .render Options.default [] "home".toList,
    .write homePlace (Utf8.encode "new".toList)]

theorem firstLoaded_overwriting :
    blank.FirstLoaded overwriting (Location.text homePlace) "old".toList := by
  refine ⟨[.write homePlace (Utf8.encode "old".toList)],
    .render Options.default [] "home".toList, [.write homePlace (Utf8.encode "new".toList)], rfl,
    ?_, ⟨rfl, homePlace, Utf8.encode "old".toList, ?_, rfl, ?_⟩, ?_⟩
  · simp
  · decide +kernel
  · decide +kernel
  · intro earlier other between split _ old
    cases earlier with
    | nil =>
        injection split with same _
        rw [← same]
        exact id
    | cons first earlier =>
        injection split with _ rest
        exact absurd rest (by simp)

/-- With the cache the view stays as it was, without the cache it is as it is
now, and a view whose name is too long fails in another way than one that is
not there. -/
theorem rendered_overwriting :
    (blank.run overwriting).rendered Options.default [] "home".toList = .ok "old".toList ∧
      (blank.run overwriting).rendered { Options.default with cacheEnabled := some false } []
        "home".toList = .ok "new".toList ∧
      (blank.run overwriting).rendered Options.default [] (List.replicate 256 'a') =
        .error (.file (.nameTooLong
          (Location.text ["views".toList, List.replicate 256 'a' ++ ".html".toList]))) := by
  have opened : blank.engine.open? (blank.run overwriting).tree "home".toList =
      .ok (homePlace, Utf8.encode "new".toList) := by
    decide +kernel
  have absent : blank.engine.open? (blank.run overwriting).tree (List.replicate 256 'a') =
      .error (.file (.nameTooLong
        (Location.text ["views".toList, List.replicate 256 'a' ++ ".html".toList]))) := by
    decide +kernel
  have fresh : blank.engine.cache = [] := rfl
  obtain ⟨kept, _⟩ := render_run fresh overwriting Options.default [] "home".toList
  obtain ⟨_, current, _⟩ := render_run fresh overwriting
    { Options.default with cacheEnabled := some false } [] "home".toList
  obtain ⟨_, _, failed, _⟩ := render_run fresh overwriting Options.default []
    (List.replicate 256 'a')
  refine ⟨?_, ?_, (failed _ absent).1⟩
  · rw [(kept _ _ opened rfl).1 _ firstLoaded_overwriting]
    decide +kernel
  · rw [(current rfl).1]
    decide +kernel

end Session

end Stencil
