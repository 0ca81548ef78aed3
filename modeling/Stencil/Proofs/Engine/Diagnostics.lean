import Stencil.Proofs.Engine.Render
import Stencil.Proofs.Template.Functions
import Stencil.Proofs.Template.SideBySide

/-!
# Diagnostics

What a render writes to the log and what it makes of unknown names is told by
options and by policies.  A policy that is strict makes a render fail where
another one lets it go on; apart from that, none of this shows in a text, a
fault or the cache.
-/

namespace Stencil

/-- The options with others about what is written to the log. -/
def Options.withReports (showWarnings validateSyntax : Bool) (options : Options) : Options :=
  { options with showWarnings := showWarnings, validateSyntax := validateSyntax }

/-- The engine with other policies for unknown names. -/
def Engine.withPolicies (filters helpers : Policy) (engine : Engine) : Engine :=
  { engine with config := { engine.config with filterPolicy := filters, helperPolicy := helpers } }

/-- The terms on which a render whose policies may be stricter is compared with
another one: an unknown name spoils it if one of them is. -/
def Terms.stricter (stricter : Prop) : Terms where
  fine _ := True
  agree context other := context = other
  alike fault other := fault = other
  spoils fault := stricter ∧ ∃ kind name, fault = .unknownName kind name

namespace Interpolation

/-- An interpolation and one that differs in what it reports; its policies may be
stricter if that is granted. -/
structure Tightens (stricter : Prop) (left right : Interpolation) : Prop where
  filters : left.filters = right.filters
  helpers : left.helpers = right.helpers
  preserveUndefined : left.preserveUndefined = right.preserveUndefined
  filterPolicy : right.filterPolicy.isStrict = left.filterPolicy.isStrict ∨
    left.filterPolicy.isStrict = false ∧ stricter
  helperPolicy : right.helperPolicy.isStrict = left.helperPolicy.isStrict ∨
    left.helperPolicy.isStrict = false ∧ stricter

end Interpolation

section Passes

variable {stricter : Prop}

/-- A render that follows another one on these terms ends as that one does, or
fails at an unknown name although the other one does not have to. -/
theorem Terms.Follows.cases_stricter {outcome other : Except Fault Text}
    (follows : (Terms.stricter stricter).Follows (Terms.stricter stricter).Same outcome other) :
    other = outcome ∨ stricter ∧ ∃ kind name, other = .error (.unknownName kind name) := by
  cases follows with
  | ok here =>
      obtain ⟨rfl, _⟩ := here
      exact .inl rfl
  | error here =>
      cases here
      exact .inl rfl
  | spoilt here =>
      obtain ⟨granted, kind, name, rfl⟩ := here
      exact .inr ⟨granted, kind, name, rfl⟩

theorem Terms.Follows.refl_stricter {related : α → α → Prop} (same : ∀ value, related value value)
    (outcome : Except Fault α) : (Terms.stricter stricter).Follows related outcome outcome :=
  .refl (fun _ => rfl) fun value _ => same value

theorem Registry.follows_lookup (registry : Registry) (name : Text) {policy other : Policy}
    (tightens : other.isStrict = policy.isStrict ∨ policy.isStrict = false ∧ stricter) :
    (Terms.stricter stricter).Follows Eq (registry.lookup name policy).outcome
      (registry.lookup name other).outcome := by
  rw [outcome_lookup, outcome_lookup]
  rcases tightens with same | ⟨lax, granted⟩
  · rw [same]
    exact .refl_stricter (fun _ => rfl) _
  · rw [lax]
    cases registry.get? name with
    | some function => exact .ok rfl
    | none =>
        cases other.isStrict with
        | false => exact .ok rfl
        | true => exact .spoilt ⟨granted, registry.kind, name, rfl⟩

theorem Filter.follows_step (registry : Registry) {policy other : Policy}
    (tightens : other.isStrict = policy.isStrict ∨ policy.isStrict = false ∧ stricter)
    (value : Value) (text : Text) :
    (Terms.stricter stricter).Follows Eq (step registry policy value text).outcome
      (step registry other value text).outcome := by
  unfold step
  split
  · exact .ok rfl
  · next segment _ =>
      rw [Logged.outcome_bind, Logged.outcome_bind]
      apply (registry.follows_lookup segment.name tightens).bind
      rintro found _ rfl
      exact .refl_stricter (fun _ => rfl) _

theorem Filter.follows_pipeline (registry : Registry) {policy other : Policy}
    (tightens : other.isStrict = policy.isStrict ∨ policy.isStrict = false ∧ stricter)
    (segments : List Text) (value : Value) :
    (Terms.stricter stricter).Follows Eq (pipeline registry policy segments value).outcome
      (pipeline registry other segments value).outcome := by
  induction segments generalizing value with
  | nil => exact .ok rfl
  | cons segment segments ih =>
      rw [pipeline, pipeline, Logged.outcome_bind, Logged.outcome_bind]
      apply (follows_step registry tightens value segment).bind
      rintro next _ rfl
      exact ih next

theorem Helper.Call.follows_evaluate (registry : Registry) {policy other : Policy}
    (tightens : other.isStrict = policy.isStrict ∨ policy.isStrict = false ∧ stricter)
    (context : Entries) (call : Call) :
    (Terms.stricter stricter).Follows Eq (call.evaluate registry policy context).outcome
      (call.evaluate registry other context).outcome := by
  rw [evaluate, evaluate, Logged.outcome_bind, Logged.outcome_bind]
  apply (registry.follows_lookup call.name tightens).bind
  rintro found _ rfl
  exact .refl_stricter (fun _ => rfl) _

namespace Interpolation

variable {left right : Interpolation} (tightens : Tightens stricter left right)

include tightens

theorem follows_finish (segments : List Text) (value : Value) :
    (Terms.stricter stricter).Follows (Terms.stricter stricter).Same (left.finish segments value).outcome
      (right.finish segments value).outcome := by
  rw [finish, finish, Logged.outcome_bind, Logged.outcome_bind, ← tightens.filters]
  apply (Filter.follows_pipeline left.filters tightens.filterPolicy segments value).bind
  rintro result _ rfl
  exact .refl_stricter (fun _ => ⟨rfl, trivial⟩) _

theorem follows_fill (context : Entries) (raw expression : Text) :
    (Terms.stricter stricter).Follows (Terms.stricter stricter).Same (left.fill context raw expression).outcome
      (right.fill context raw expression).outcome := by
  unfold fill
  split
  · exact .ok ⟨rfl, trivial⟩
  · dsimp only
    split
    · next call _ =>
        rw [Logged.outcome_bind, Logged.outcome_bind, ← tightens.helpers]
        apply (Helper.Call.follows_evaluate left.helpers tightens.helperPolicy context call).bind
        rintro value _ rfl
        exact follows_finish tightens _ value
    · split
      · rw [outcome_fillUndefined, outcome_fillUndefined, ← tightens.preserveUndefined]
        exact .ok ⟨rfl, trivial⟩
      · exact follows_finish tightens _ _

theorem follows_pass (context : Entries) (text : Text) :
    (Terms.stricter stricter).Follows (Terms.stricter stricter).Same
      (left.pass context text).outcome (right.pass context text).outcome := by
  rw [pass, pass, Logged.outcome_concat, Logged.outcome_concat]
  apply Terms.Follows.joined trivial fun _ _ _ _ => trivial
  intro piece _
  cases piece with
  | plain char => exact .ok ⟨rfl, trivial⟩
  | token raw expression => exact follows_fill tightens context raw expression

/-- Under both settings loops go on alike. -/
theorem Tightens.parallel (passes : Nat) (literalFallback : Bool) :
    Loop.Setting.Parallel (Terms.stricter stricter) ⟨left, passes, literalFallback⟩
      ⟨right, passes, literalFallback⟩ where
  passes := rfl
  alike _ := rfl
  empty := trivial
  append _ _ _ _ := trivial
  gaps _ _ _ := trivial
  tail _ := trivial
  conditions := by
    rintro context _ text rfl _
    exact .refl_stricter (fun _ => ⟨rfl, trivial⟩) _
  expressions := by
    rintro context _ text rfl _
    exact follows_pass tightens context text
  targets := by
    rintro context _ text rfl _ part _
    rfl
  scopes := by
    rintro context _ text rfl _ part _ entries _ entry _
    rfl
  starts := by
    rintro context _ text rfl _ part _ entries _ entry _
    exact .refl_stricter (fun _ => ⟨rfl, trivial⟩) _

end Interpolation

end Passes

namespace Engine

section

variable {stricter : Prop} {engine : Engine} {filters helpers : Policy} {options : Options}
  (showWarnings validateSyntax : Bool)
  (tightens : Interpolation.Tightens stricter (engine.interpolation options)
    ((engine.withPolicies filters helpers).interpolation
      (options.withReports showWarnings validateSyntax)))
  (data : Entries)

include tightens

theorem follows_process (template : Text) :
    (Terms.stricter stricter).Follows (Terms.stricter stricter).Same
      (engine.process options data template).outcome
      ((engine.withPolicies filters helpers).process
        (options.withReports showWarnings validateSyntax) data template).outcome := by
  have parallel : Loop.Setting.Parallel (Terms.stricter stricter) (engine.rendering options).loops
      ((engine.withPolicies filters helpers).rendering
        (options.withReports showWarnings validateSyntax)).loops :=
    tightens.parallel engine.config.loopMaxPasses engine.config.literalFallback
  have agree : (Terms.stricter stricter).agree data data := rfl
  have cycles : ∀ text, (Terms.stricter stricter).Follows (Terms.stricter stricter).Same
      ((engine.rendering options).cycles data text).outcome
      (((engine.withPolicies filters helpers).rendering
        (options.withReports showWarnings validateSyntax)).cycles data text).outcome :=
    fun text => Rendering.follows_cycles parallel agree rfl trivial
  have hooksLeft : (engine.rendering options).hooks = engine.hooks := rfl
  have hooksRight : ((engine.withPolicies filters helpers).rendering
      (options.withReports showWarnings validateSyntax)).hooks = engine.hooks := rfl
  rw [process, process, Rendering.process, Rendering.process, hooksLeft, hooksRight]
  cases engine.hooks with
  | none => exact cycles template
  | some hooks =>
      dsimp only
      rw [Logged.outcome_bind, Logged.outcome_bind]
      apply (Terms.Follows.refl_stricter (fun _ => rfl) _).bind
      rintro text _ rfl
      rw [Logged.outcome_bind, Logged.outcome_bind]
      apply (cycles text).bind
      rintro rendered _ ⟨rfl, _⟩
      exact .refl_stricter (fun _ => ⟨rfl, trivial⟩) _

theorem follows_renderText (template : Text) :
    (Terms.stricter stricter).Follows (Terms.stricter stricter).Same
      (engine.renderText options data template).outcome
      ((engine.withPolicies filters helpers).renderText
        (options.withReports showWarnings validateSyntax) data template).outcome := by
  rw [outcome_renderText_eq_process, outcome_renderText_eq_process]
  exact follows_process showWarnings validateSyntax tightens data template

theorem follows_render (tree : FileTree) (view : Text) :
    (Terms.stricter stricter).Follows (Terms.stricter stricter).Same
        (engine.render tree options data view).2.outcome
        ((engine.withPolicies filters helpers).render tree
          (options.withReports showWarnings validateSyntax) data view).2.outcome ∧
      ((engine.withPolicies filters helpers).render tree
          (options.withReports showWarnings validateSyntax) data view).1 =
        (engine.render tree options data view).1.withPolicies filters helpers := by
  have processed := follows_process showWarnings validateSyntax tightens data
  have sameOpen : (engine.withPolicies filters helpers).open? tree view =
      engine.open? tree view := rfl
  cases opened : engine.open? tree view with
  | error fault =>
      rw [render_of_open?_eq_error data options opened,
        render_of_open?_eq_error data _ (sameOpen.trans opened)]
      exact ⟨.error rfl, rfl⟩
  | ok file =>
      obtain ⟨location, bytes⟩ := file
      have openedToo := sameOpen.trans opened
      -- The engines have one cache and use it alike: a view is kept for both or for neither.
      by_cases kept : engine.usesCache options = true ∧
          (engine.cache.get? (Location.text location)).isSome = true
      · obtain ⟨uses, found⟩ := kept
        have usesToo : (engine.withPolicies filters helpers).usesCache
            (options.withReports showWarnings validateSyntax) = true := uses
        obtain ⟨body, found⟩ := Option.isSome_iff_exists.mp found
        obtain ⟨outcome, same⟩ := render_of_kept data opened uses found
        obtain ⟨otherOutcome, otherSame⟩ := render_of_kept data openedToo usesToo found
        rw [outcome, otherOutcome, same, otherSame]
        exact ⟨processed body, rfl⟩
      · have fresh : engine.usesCache options = true →
            engine.cache.get? (Location.text location) = none := by
          intro uses
          simpa [uses] using kept
        have freshToo : (engine.withPolicies filters helpers).usesCache
              (options.withReports showWarnings validateSyntax) = true →
            (engine.withPolicies filters helpers).cache.get? (Location.text location) = none :=
          fresh
        obtain ⟨outcome, after⟩ := render_of_not_kept data opened fresh
        obtain ⟨otherOutcome, otherAfter⟩ := render_of_not_kept data openedToo freshToo
        constructor
        · rw [outcome, otherOutcome, fromFiles, fromFiles, sameOpen, opened]
          exact (Terms.Follows.refl_stricter (fun _ => rfl) (engine.body tree location bytes)).bind
            fun body _ same => same ▸ processed body
        · have sameUses : (engine.withPolicies filters helpers).usesCache
              (options.withReports showWarnings validateSyntax) = engine.usesCache options := rfl
          have sameBody : (engine.withPolicies filters helpers).body tree location bytes =
              engine.body tree location bytes := rfl
          rw [after, otherAfter, sameUses, sameBody]
          cases engine.usesCache options with
          | false => rfl
          | true => cases engine.body tree location bytes <;> rfl

end

theorem tightens_of_isStrict_eq (engine : Engine) (options : Options)
    (showWarnings validateSyntax : Bool) {filters helpers : Policy}
    (sameFilters : filters.isStrict = engine.config.filterPolicy.isStrict)
    (sameHelpers : helpers.isStrict = engine.config.helperPolicy.isStrict) :
    Interpolation.Tightens False (engine.interpolation options)
      ((engine.withPolicies filters helpers).interpolation
        (options.withReports showWarnings validateSyntax)) :=
  ⟨rfl, rfl, rfl, .inl sameFilters, .inl sameHelpers⟩

theorem withPolicies_withPolicies (engine : Engine) (filters helpers other more : Policy) :
    (engine.withPolicies filters helpers).withPolicies other more =
      engine.withPolicies other more := rfl

theorem withPolicies_self (engine : Engine) :
    engine.withPolicies engine.config.filterPolicy engine.config.helperPolicy = engine := rfl

theorem tightens_silent (engine : Engine) (options : Options) :
    Interpolation.Tightens True ((engine.withPolicies .silent .silent).interpolation options)
      (((engine.withPolicies .silent .silent).withPolicies engine.config.filterPolicy
        engine.config.helperPolicy).interpolation
          (options.withReports options.showWarnings options.validateSyntax)) :=
  ⟨rfl, rfl, rfl, .inr ⟨rfl, trivial⟩, .inr ⟨rfl, trivial⟩⟩

/-- Other reports, and policies that are strict where the engine's are, make no
difference to a text, a fault or what is kept; and what renders to a text under
any policies renders to that text under silent ones. -/
theorem render_withPolicies (engine : Engine) (options : Options) (data : Entries)
    (tree : FileTree) (view template : Text) :
    (∀ showWarnings validateSyntax filters helpers,
      filters.isStrict = engine.config.filterPolicy.isStrict →
      helpers.isStrict = engine.config.helperPolicy.isStrict →
        ((engine.withPolicies filters helpers).renderText
            (options.withReports showWarnings validateSyntax) data template).outcome =
          (engine.renderText options data template).outcome ∧
        ((engine.withPolicies filters helpers).render tree
            (options.withReports showWarnings validateSyntax) data view).2.outcome =
          (engine.render tree options data view).2.outcome ∧
        ((engine.withPolicies filters helpers).render tree
            (options.withReports showWarnings validateSyntax) data view).1 =
          (engine.render tree options data view).1.withPolicies filters helpers) ∧
      ∀ text,
        ((engine.renderText options data template).outcome = .ok text →
          ((engine.withPolicies .silent .silent).renderText options data template).outcome =
            .ok text) ∧
        ((engine.render tree options data view).2.outcome = .ok text →
          ((engine.withPolicies .silent .silent).render tree options data view).2.outcome =
            .ok text) := by
  constructor
  · intro showWarnings validateSyntax filters helpers sameFilters sameHelpers
    have tightens := engine.tightens_of_isStrict_eq options showWarnings validateSyntax
      sameFilters sameHelpers
    obtain ⟨follows, after⟩ := follows_render showWarnings validateSyntax tightens data tree view
    have ends : ∀ {outcome other : Except Fault Text},
        (Terms.stricter False).Follows (Terms.stricter False).Same outcome other →
          other = outcome := fun follows => follows.cases_stricter.resolve_right fun spoilt => spoilt.1
    exact ⟨ends (follows_renderText showWarnings validateSyntax tightens data template),
      ends follows, after⟩
  · intro text
    have tightens := engine.tightens_silent options
    have ends : ∀ {outcome other : Except Fault Text},
        (Terms.stricter True).Follows (Terms.stricter True).Same outcome other →
          other = .ok text → outcome = .ok text := by
      intro outcome other follows ended
      rcases follows.cases_stricter with rfl | ⟨_, kind, name, failed⟩
      · exact ended
      · rw [failed] at ended
        exact absurd ended (by simp)
    obtain ⟨follows, _⟩ := follows_render options.showWarnings options.validateSyntax tightens data
      tree view
    have followsText := follows_renderText options.showWarnings options.validateSyntax tightens data
      template
    rw [withPolicies_withPolicies, withPolicies_self] at follows followsText
    exact ⟨ends followsText, ends follows⟩

/-- A view with a filter that every engine has. -/
def memo : FileTree :=
  ⟨[(["memo.html".toList], Utf8.encode "{{name|upper}} {{place}}".toList)], []⟩

/-- With strict policies the view and its template render as they do silently,
with and without reports. -/
theorem render_memo :
    ((standard.withPolicies .strict .strict).renderText
        (Options.default.withReports false false) [(.text "name".toList, .text "ann".toList)]
        "{{name|upper}} {{place}}".toList).outcome = .ok "ANN {{place}}".toList ∧
      ((standard.withPolicies .silent .silent).renderText Options.default
        [(.text "name".toList, .text "ann".toList)]
        "{{name|upper}} {{place}}".toList).outcome = .ok "ANN {{place}}".toList ∧
      ((standard.withPolicies .silent .silent).render memo Options.default
        [(.text "name".toList, .text "ann".toList)] "memo".toList).2.outcome =
          .ok "ANN {{place}}".toList := by
  have rendered : ((standard.withPolicies .strict .strict).renderText Options.default
      [(.text "name".toList, .text "ann".toList)]
      "{{name|upper}} {{place}}".toList).outcome = .ok "ANN {{place}}".toList := by
    decide +kernel
  have viewed : ((standard.withPolicies .strict .strict).render memo Options.default
      [(.text "name".toList, .text "ann".toList)] "memo".toList).2.outcome =
        .ok "ANN {{place}}".toList := by
    decide +kernel
  obtain ⟨unreported, silenced⟩ := render_withPolicies (standard.withPolicies .strict .strict)
    Options.default [(.text "name".toList, .text "ann".toList)] memo "memo".toList
    "{{name|upper}} {{place}}".toList
  obtain ⟨same, _⟩ := unreported false false .strict .strict rfl rfl
  obtain ⟨silentText, silentView⟩ := silenced "ANN {{place}}".toList
  rw [withPolicies_withPolicies] at same silentText silentView
  exact ⟨same.trans rendered, silentText rendered, silentView viewed⟩

end Engine

end Stencil
