import Stencil.Proofs.Template.Rendered

/-!
# Stopping early

A render stops at the first cycle that changes nothing, and so do the passes of
each iteration.  A cycle that changes nothing would change nothing again, so a
render ends as one that goes through all its passes and never compares texts.
Therefore two renders, one after the other, are one with as many cycles as both
together, and a text that was found to be stable stays as it is.
-/

namespace Stencil

theorem repeated_add (pass : α → Except Fault α) (first later : Nat) (start : α) :
    repeated pass (first + later) start = repeated pass first start >>= repeated pass later := by
  induction first generalizing start with
  | zero =>
      rw [Nat.zero_add]
      rfl
  | succ first ih =>
      rw [Nat.succ_add, repeated, repeated]
      cases pass start with
      | error fault => rfl
      | ok next => exact ih next

/-- The text that repeated passes end with is left as it is by the pass, if it
was found to stay the same. -/
theorem fixed_of_settle {pass : Text → Logged Text} {cap passes : Nat} {text final : Text}
    (stable : (settle pass cap text).outcome = .ok (final, some passes)) :
    (pass final).outcome = .ok final := by
  -- The pass that changes nothing is the last one, so the text before it is the final one.
  induction cap generalizing text passes with
  | zero => exact absurd (congrArg (Except.map Prod.snd) stable) (by simp [settle, Except.map])
  | succ cap ih =>
      rw [settle, Logged.outcome_bind] at stable
      obtain ⟨changed, next, goesOn⟩ := exists_of_bind_eq_ok stable
      split at goesOn
      · next same =>
          cases goesOn
          rw [same] at next ⊢
          exact next
      · rw [Logged.outcome_bind] at goesOn
        obtain ⟨⟨last, count⟩, rest, counted⟩ := exists_of_bind_eq_ok goesOn
        change Except.ok (last, count.map (· + 1)) = Except.ok (final, some passes) at counted
        injection counted with both
        injection both with sameText sameCount
        obtain ⟨earlier, rfl, _⟩ := Option.map_eq_some_iff.mp sameCount
        subst sameText
        exact ih rest

namespace Loop.Setting

variable (setting : Loop.Setting)

/-- One pass over an iteration, apart from the log, in which `inner` expands the
loops. -/
def unstoppedCycle (inner : Text → Entries → Except Fault Text) (scope : Entries)
    (text : Text) : Except Fault Text := do
  let text ← Condition.pass setting.literalFallback scope text
  let text ← inner text scope
  (setting.interpolation.pass scope text).outcome

/-- The text of one iteration that goes through all its passes. -/
def unstoppedIteration (inner : Text → Entries → Except Fault Text) (block : Block)
    (spec : Spec) (context : Entries) (entry : Value × Value) : Except Fault Text := do
  let scope := scope spec context entry.1 entry.2
  let parts ← partBindings spec.valueName entry.2
  let names ← nameBindings scope
  repeated (setting.unstoppedCycle inner scope) setting.passes
    (bindOutside (parts ++ names) block.body)

/-- The text that a loop expands to if each iteration goes through all its
passes. -/
def unstoppedExpand (inner : Text → Entries → Except Fault Text) (context : Entries)
    (block : Block) : Except Fault Text :=
  let spec := Spec.ofText block.header
  match targetEntries? (Entries.resolve spec.target context) with
  | some entries => joined (setting.unstoppedIteration inner block spec context) entries
  | none => .ok []

/-- One pass over the loops of a text in which no iteration stops early. -/
def unstoppedWithin : Nat → Text → Entries → Except Fault Text
  | 0, text, _ =>
      (Layout.ofText Tag.foreachMarks text).replace fun _ => .error .nestingTooDeep
  | depth + 1, text, context =>
      (Layout.ofText Tag.foreachMarks text).replace
        (setting.unstoppedExpand (unstoppedWithin depth) context)

variable {setting} {inner : Text → Entries → Logged Text}
  {unstopped : Text → Entries → Except Fault Text}
  (same : ∀ text context, (inner text context).outcome = unstopped text context)

include same

theorem outcome_cycle_of_same (scope : Entries) (text : Text) :
    (setting.cycle inner scope text).outcome = setting.unstoppedCycle unstopped scope text := by
  simp only [outcome_cycle, unstoppedCycle, same]

theorem outcome_iteration_of_same (block : Block) (spec : Spec) (context : Entries)
    (entry : Value × Value) :
    (setting.iteration inner block spec context entry).outcome =
      setting.unstoppedIteration unstopped block spec context entry := by
  have cycles : (fun text =>
      (setting.cycle inner (Loop.scope spec context entry.1 entry.2) text).outcome) =
        setting.unstoppedCycle unstopped (Loop.scope spec context entry.1 entry.2) :=
    funext (outcome_cycle_of_same same _)
  rw [outcome_iteration, cycles]
  rfl

theorem outcome_expand_of_same (context : Entries) (block : Block) :
    (setting.expand inner context block).outcome =
      setting.unstoppedExpand unstopped context block := by
  rw [expand, unstoppedExpand]
  cases targetEntries? (Entries.resolve (Spec.ofText block.header).target context) with
  | none => rfl
  | some entries =>
      show (Logged.concat _ entries).outcome = joined _ entries
      rw [Logged.outcome_concat]
      congr 1
      funext entry
      exact outcome_iteration_of_same same block _ context entry

omit same

/-- Iterations that go through all their passes end as they do otherwise. -/
theorem outcome_passWithin_eq_unstopped (setting : Loop.Setting) (depth : Nat) (text : Text)
    (context : Entries) :
    (setting.passWithin depth text context).outcome =
      setting.unstoppedWithin depth text context := by
  induction depth generalizing text context with
  | zero => exact Layout.outcome_replace _ _
  | succ depth ih =>
      rw [passWithin, unstoppedWithin, Layout.outcome_replace]
      congr 1
      funext block
      exact outcome_expand_of_same ih context block

end Loop.Setting

namespace Rendering

variable (rendering : Rendering) (data : Entries)

/-- What the hooks make of a template, apart from the log, if `passes` is what
comes between them. -/
def around (passes : Text → Except Fault Text) (template : Text) : Except Fault Text :=
  match rendering.hooks with
  | none => passes template
  | some hooks => do
      let text ← (hooks.beforePasses template data).outcome
      let text ← passes text
      (hooks.afterPasses text data).outcome

/-- One cycle of passes, apart from the log, in which no iteration stops
early. -/
def unstoppedCycle (text : Text) : Except Fault Text := do
  let text ← rendering.loops.unstoppedWithin (Loop.room text) text data
  let text ← Condition.pass rendering.loops.literalFallback data text
  (rendering.loops.interpolation.pass data text).outcome

theorem outcome_cycle_eq_unstopped (text : Text) :
    (rendering.cycle data text).outcome = rendering.unstoppedCycle data text := by
  rw [outcome_cycle, unstoppedCycle, Loop.Setting.pass,
    Loop.Setting.outcome_passWithin_eq_unstopped]

theorem outcome_process (template : Text) :
    (rendering.process data template).outcome =
      rendering.around data
        (repeated (fun text => (rendering.cycle data text).outcome) rendering.maxPasses)
        template := by
  rw [process, around]
  cases rendering.hooks with
  | none => exact rendering.outcome_cycles data template
  | some hooks =>
      dsimp only
      rw [Logged.outcome_bind]
      cases (hooks.beforePasses template data).outcome with
      | error fault => rfl
      | ok text =>
          show (rendering.cycles data text >>= fun text => hooks.afterPasses text data).outcome = _
          rw [Logged.outcome_bind, outcome_cycles]
          rfl

end Rendering

namespace Engine

def withCycles (cap : Nat) (engine : Engine) : Engine :=
  { engine with config := { engine.config with maxPasses := cap } }

variable {engine : Engine} (options : Options) (data : Entries)

theorem outcome_process_withCycles (noHooks : engine.hooks = none) (cap : Nat) (template : Text) :
    ((engine.withCycles cap).process options data template).outcome =
      repeated (fun text => ((engine.rendering options).cycle data text).outcome) cap
        template := by
  have hooks : ((engine.withCycles cap).rendering options).hooks = none := noHooks
  rw [process, Rendering.outcome_process, Rendering.around, hooks]
  rfl

theorem fixed_of_stable (noHooks : engine.hooks = none) {template text : Text} {passes : Nat}
    (ended : (engine.process options data template).outcome = .ok text)
    (stable : (engine.process options data template).log.getLast? = some (.stable passes)) :
    ((engine.rendering options).cycle data text).outcome = .ok text := by
  have hooks : (engine.rendering options).hooks = none := noHooks
  rw [process, Rendering.process, hooks] at ended stable
  rw [Rendering.cycles, Logged.outcome_bind] at ended
  rw [Rendering.cycles, Logged.log_bind] at stable
  obtain ⟨⟨final, count⟩, settled, rest⟩ := exists_of_bind_eq_ok ended
  rw [settled] at stable
  cases rest
  cases count with
  | some count => exact fixed_of_settle settled
  | none => exact absurd stable (by simp [Logged.log_bind, Logged.note, pure, Logged.pure])

/-- A render ends as one that goes through all its cycles and, in each
iteration, through all its passes.  Without hooks, a render of what a render
ends with is one render with the cycles of both, and a text that a render found
to be stable is what more cycles end with and what it renders to itself. -/
theorem process_unstopped (engine : Engine) (options : Options) (data : Entries)
    (template : Text) :
    (engine.process options data template).outcome =
        (engine.rendering options).around data
          (repeated (fun text => ((engine.rendering options).cycle data text).outcome)
            engine.config.maxPasses) template ∧
      (engine.process options data template).outcome =
        (engine.rendering options).around data
          (repeated ((engine.rendering options).unstoppedCycle data) engine.config.maxPasses)
          template ∧
      (∀ depth block spec context entry,
        ((engine.rendering options).loops.iteration
            ((engine.rendering options).loops.passWithin depth) block spec context entry).outcome =
          (engine.rendering options).loops.unstoppedIteration
            ((engine.rendering options).loops.unstoppedWithin depth) block spec context entry) ∧
      (engine.hooks = none →
        (∀ first later, (do
            let text ← ((engine.withCycles first).process options data template).outcome
            ((engine.withCycles later).process options data text).outcome) =
          ((engine.withCycles (first + later)).process options data template).outcome) ∧
        ∀ text passes, (engine.process options data template).outcome = .ok text →
          (engine.process options data template).log.getLast? = some (.stable passes) →
          ∀ cap, (engine.config.maxPasses ≤ cap →
              ((engine.withCycles cap).process options data template).outcome = .ok text) ∧
            ((engine.withCycles cap).process options data text).outcome = .ok text) := by
  have stopped : (engine.process options data template).outcome = _ :=
    (engine.rendering options).outcome_process data template
  have cycles : (fun text => ((engine.rendering options).cycle data text).outcome) =
      (engine.rendering options).unstoppedCycle data :=
    funext ((engine.rendering options).outcome_cycle_eq_unstopped data)
  refine ⟨stopped, stopped.trans (by rw [cycles]; rfl), ?_, ?_⟩
  · intro depth block spec context entry
    exact Loop.Setting.outcome_iteration_of_same
      ((engine.rendering options).loops.outcome_passWithin_eq_unstopped depth) block spec context
      entry
  intro noHooks
  constructor
  · intro first later
    have again : (fun text => ((engine.withCycles later).process options data text).outcome) =
        repeated (fun text => ((engine.rendering options).cycle data text).outcome) later :=
      funext (outcome_process_withCycles options data noHooks later)
    rw [outcome_process_withCycles options data noHooks,
      outcome_process_withCycles options data noHooks, again, repeated_add]
  · intro text passes ended stable cap
    have fixed := fixed_of_stable options data noHooks ended stable
    constructor
    · intro more
      obtain ⟨extra, rfl⟩ := Nat.exists_eq_add_of_le more
      have reached : repeated (fun text => ((engine.rendering options).cycle data text).outcome)
          engine.config.maxPasses template = .ok text :=
        (outcome_process_withCycles options data noHooks _ template).symm.trans ended
      rw [outcome_process_withCycles options data noHooks, repeated_add, reached]
      exact repeated_of_fixed fixed extra
    · rw [outcome_process_withCycles options data noHooks]
      exact repeated_of_fixed fixed cap

def welcome : Text :=
  "{{foreach:guests}}{{if item}}{{item}}, {{endif}}{{endforeach}}".toList ++
    "{{if ready}}{{if ready}}welcome{{endif}}{{endif}}".toList

def welcomeData : Entries :=
  [(.text "guests".toList, .list 2 [.text "Ada".toList, .text "Bob".toList]),
    (.text "ready".toList, .bool true)]

/-- The welcome is stable after three cycles, so that it is what one cycle and
two more end with, what twenty end with and what it renders to itself. -/
theorem process_welcome :
    standard.hooks = none ∧
      (standard.process Options.default welcomeData welcome).outcome =
        .ok "Ada, Bob, welcome".toList ∧
      (standard.process Options.default welcomeData welcome).log.getLast? = some (.stable 3) ∧
      (do
          let text ← ((standard.withCycles 1).process Options.default welcomeData welcome).outcome
          ((standard.withCycles 2).process Options.default welcomeData text).outcome) =
        ((standard.withCycles (1 + 2)).process Options.default welcomeData welcome).outcome ∧
      ((standard.withCycles 20).process Options.default welcomeData welcome).outcome =
        .ok "Ada, Bob, welcome".toList ∧
      (standard.process Options.default welcomeData "Ada, Bob, welcome".toList).outcome =
        .ok "Ada, Bob, welcome".toList := by
  have ended : (standard.process Options.default welcomeData welcome).outcome =
      .ok "Ada, Bob, welcome".toList := by decide +kernel
  have stable : (standard.process Options.default welcomeData welcome).log.getLast? =
      some (.stable 3) := by decide +kernel
  obtain ⟨_, _, _, unhooked⟩ :=
    process_unstopped standard Options.default welcomeData welcome
  obtain ⟨both, stays⟩ := unhooked rfl
  exact ⟨rfl, ended, stable, both 1 2, (stays _ 3 ended stable 20).1 (by decide),
    (stays _ 3 ended stable standard.config.maxPasses).2⟩

end Engine

end Stencil
