import Stencil.Proofs.Template.EarlyStop
import Stencil.Proofs.Template.Meaning

/-!
# Levels of nested blocks

A forest is a template of literal texts and `if` blocks.  A pass over its
conditions puts the branch that is selected in the place of each outermost block
and leaves the blocks inside the branch as they are, so that it resolves one level
of nesting; a cycle of a render does no more to a forest than that.  After as many
cycles as are allowed, just as many levels are resolved, and a block is left exactly
if more branches than that are selected one inside the other.
-/

namespace Stencil

namespace Template

/-- Whether a template is made of literal texts and `if` blocks. -/
inductive IsForest : Template → Prop where
  | done : IsForest done
  | text {next : Template} (content : Text.Inert) (rest : IsForest next) :
      IsForest (text content next)
  | guarded {body next : Template} (header : IfHeader) (inside : IsForest body)
      (rest : IsForest next) : IsForest (guarded header body next)
  | either {body alternative next : Template} (header : IfHeader) (inside : IsForest body)
      (otherwise : IsForest alternative) (rest : IsForest next) :
      IsForest (either header body alternative next)

section Levels

variable (literalFallback : Bool) (context : Entries)

/-- The branch of a block that its condition selects. -/
def selected (header : IfHeader) (body alternative : Template) : Template :=
  if header.selects literalFallback context then body else alternative

/-- The template with the selected branch in the place of each outermost block. -/
def peel : Template → Template
  | done => done
  | text content next => text content (peel next)
  | tag path next => tag path (peel next)
  | guarded header body next => selected literalFallback context header body done ++ peel next
  | either header body alternative next =>
      selected literalFallback context header body alternative ++ peel next
  | loop header body next => loop header (peel body) (peel next)

/-- The template with the outermost `levels` levels of blocks resolved. -/
def resolved : Nat → Template → Template
  | _, done => done
  | levels, text content next => text content (resolved levels next)
  | levels, tag path next => tag path (resolved levels next)
  | 0, guarded header body next => guarded header body (resolved 0 next)
  | levels + 1, guarded header body next =>
      (if header.selects literalFallback context then resolved levels body else done)
        ++ resolved (levels + 1) next
  | 0, either header body alternative next => either header body alternative (resolved 0 next)
  | levels + 1, either header body alternative next =>
      (if header.selects literalFallback context then resolved levels body
        else resolved levels alternative) ++ resolved (levels + 1) next
  | levels, loop header body next => loop header (resolved levels body) (resolved levels next)

/-- The branches that are selected of the outermost blocks. -/
def branches : Template → List Template
  | done => []
  | text _ next | tag _ next => branches next
  | guarded header body next => selected literalFallback context header body done :: branches next
  | either header body alternative next =>
      selected literalFallback context header body alternative :: branches next
  | loop _ body next => branches body ++ branches next

/-- A chain of selected branches: the first one is selected of an outermost block,
and each other one of an outermost block of the one before it. -/
inductive Chain : Template → List Template → Prop where
  | nil (template : Template) : Chain template []
  | cons {template branch : Template} {inner : List Template}
      (among : branch ∈ template.branches literalFallback context) (inside : Chain branch inner) :
      Chain template (branch :: inner)

end Levels

variable {literalFallback : Bool} {context : Entries}

theorem resolved_zero (template : Template) :
    template.resolved literalFallback context 0 = template := by
  induction template with
  | done => rfl
  | text content next ih | tag path next ih => rw [resolved, ih]
  | guarded header body next _ ih | either header body alternative next _ _ ih => rw [resolved, ih]
  | loop header body next bodyIH nextIH => rw [resolved, bodyIH, nextIH]

theorem append_assoc (first second third : Template) :
    first ++ second ++ third = first ++ (second ++ third) := by
  induction first with
  | done => rfl
  | text content next ih => exact congrArg (text content) ih
  | tag path next ih => exact congrArg (tag path) ih
  | guarded header body next _ ih => exact congrArg (guarded header body) ih
  | either header body alternative next _ _ ih => exact congrArg (either header body alternative) ih
  | loop header body next _ ih => exact congrArg (loop header body) ih

theorem resolved_append (levels : Nat) (first later : Template) :
    (first ++ later).resolved literalFallback context levels =
      first.resolved literalFallback context levels ++
        later.resolved literalFallback context levels := by
  induction first with
  | done => rw [resolved, done_append, done_append]
  | text content next ih => rw [text_append, resolved, resolved, ih, text_append]
  | tag path next ih => rw [tag_append, resolved, resolved, ih, tag_append]
  | guarded header body next _ ih =>
      rw [guarded_append]
      cases levels with
      | zero => rw [resolved, resolved, ih, guarded_append]
      | succ levels => rw [resolved, resolved, ih, append_assoc]
  | either header body alternative next _ _ ih =>
      rw [either_append]
      cases levels with
      | zero => rw [resolved, resolved, ih, either_append]
      | succ levels => rw [resolved, resolved, ih, append_assoc]
  | loop header body next _ ih => rw [loop_append, resolved, resolved, ih, loop_append]

theorem resolved_selected (levels : Nat) (header : IfHeader) (body alternative : Template) :
    (selected literalFallback context header body alternative).resolved literalFallback context
        levels =
      if header.selects literalFallback context then body.resolved literalFallback context levels
      else alternative.resolved literalFallback context levels := by
  rw [selected]
  split <;> rfl

/-- One level more is resolved by one pass more. -/
theorem resolved_succ (levels : Nat) (template : Template) :
    template.resolved literalFallback context (levels + 1) =
      (template.peel literalFallback context).resolved literalFallback context levels := by
  induction template with
  | done => rfl
  | text content next ih => rw [peel, resolved, resolved, ih]
  | tag path next ih => rw [peel, resolved, resolved, ih]
  | guarded header body next _ ih =>
      rw [peel, resolved, resolved_append, resolved_selected, ih]
      rfl
  | either header body alternative next _ _ ih =>
      rw [peel, resolved, resolved_append, resolved_selected, ih]
  | loop header body next bodyIH nextIH => rw [peel, resolved, resolved, bodyIH, nextIH]

theorem branches_append (first later : Template) :
    (first ++ later).branches literalFallback context =
      first.branches literalFallback context ++ later.branches literalFallback context := by
  induction first with
  | done => rfl
  | text content next ih => rw [text_append, branches, branches, ih]
  | tag path next ih => rw [tag_append, branches, branches, ih]
  | guarded header body next _ ih => rw [guarded_append, branches, branches, ih, List.cons_append]
  | either header body alternative next _ _ ih =>
      rw [either_append, branches, branches, ih, List.cons_append]
  | loop header body next _ ih => rw [loop_append, branches, branches, ih, List.append_assoc]

/-- The outermost blocks after a pass are those of the branches that it leaves. -/
theorem branches_peel (template : Template) :
    (template.peel literalFallback context).branches literalFallback context =
      (template.branches literalFallback context).flatMap (branches literalFallback context) := by
  induction template with
  | done => rfl
  | text content next ih => rw [peel, branches, branches, ih]
  | tag path next ih => rw [peel, branches, branches, ih]
  | guarded header body next _ ih =>
      rw [peel, branches_append, ih, branches, List.flatMap_cons]
  | either header body alternative next _ _ ih =>
      rw [peel, branches_append, ih, branches, List.flatMap_cons]
  | loop header body next bodyIH nextIH =>
      rw [peel, branches, branches, bodyIH, nextIH, List.flatMap_append]

/-- No block is left after some passes exactly if no chain of selected branches is
longer. -/
theorem branches_resolved_eq_nil_iff (levels : Nat) (template : Template) :
    (template.resolved literalFallback context levels).branches literalFallback context = [] ↔
      ∀ chain, Chain literalFallback context template chain → chain.length ≤ levels := by
  induction levels generalizing template with
  | zero =>
      rw [resolved_zero]
      constructor
      · intro none chain links
        cases links with
        | nil => exact Nat.le_refl 0
        | cons among _ =>
            rw [none] at among
            exact absurd among List.not_mem_nil
      · intro short
        rw [List.eq_nil_iff_forall_not_mem]
        intro branch among
        have long := short [branch] (.cons among (.nil branch))
        exact absurd long (by simp)
  | succ levels ih =>
      rw [resolved_succ, ih]
      constructor
      · intro short chain links
        cases links with
        | nil => exact Nat.zero_le _
        | @cons _ branch inner among inside =>
            refine Nat.succ_le_succ ?_
            cases inside with
            | nil => exact Nat.zero_le levels
            | cons next further =>
                apply short _ (.cons _ further)
                rw [branches_peel]
                exact List.mem_flatMap.mpr ⟨branch, among, next⟩
      · intro short chain links
        cases links with
        | nil => exact Nat.zero_le levels
        | cons next further =>
            rw [branches_peel] at next
            obtain ⟨branch, among, next⟩ := List.mem_flatMap.mp next
            exact Nat.le_of_succ_le_succ (short _ (.cons among (.cons next further)))

namespace IsForest

variable {template later : Template}

theorem append (first : template.IsForest) (second : later.IsForest) :
    (template ++ later).IsForest := by
  induction first with
  | done => exact second
  | text content _ ih => exact .text content ih
  | guarded header inside _ _ ih => exact .guarded header inside ih
  | either header inside otherwise _ _ _ ih => exact .either header inside otherwise ih

theorem selected (header : IfHeader) (inside : template.IsForest) (otherwise : later.IsForest) :
    (selected literalFallback context header template later).IsForest := by
  rw [Template.selected]
  split
  · exact inside
  · exact otherwise

theorem peel (forest : template.IsForest) : (template.peel literalFallback context).IsForest := by
  induction forest with
  | done => exact .done
  | text content _ ih => exact .text content ih
  | guarded header inside _ _ ih => exact (selected header inside .done).append ih
  | either header inside otherwise _ _ _ ih => exact (selected header inside otherwise).append ih

theorem loopDepth_eq_zero (forest : template.IsForest) : loopDepth template = 0 := by
  induction forest with
  | done => rfl
  | text content _ ih => exact ih
  | guarded header _ _ insideIH ih => rw [loopDepth, insideIH, ih, Nat.max_self]
  | either header _ _ _ insideIH otherwiseIH ih =>
      rw [loopDepth, insideIH, otherwiseIH, ih, Nat.max_self, Nat.max_self]

theorem quiet_append (forest : template.IsForest) (first : template.Quiet literalFallback context)
    (second : later.Quiet literalFallback context) :
    (template ++ later).Quiet literalFallback context := by
  induction forest with
  | done => exact second
  | text content _ ih => exact ih first
  | guarded header _ _ _ ih => exact ⟨first.1, first.2.1, ih first.2.2⟩
  | either header _ _ _ _ _ ih => exact ⟨first.1, first.2.1, first.2.2.1, ih first.2.2.2⟩

theorem quiet_selected (header : IfHeader) (inside : template.Quiet literalFallback context)
    (otherwise : later.Quiet literalFallback context) :
    (Template.selected literalFallback context header template later).Quiet literalFallback
      context := by
  rw [Template.selected]
  split
  · exact inside
  · exact otherwise

/-- No condition of the branches that a pass leaves fails if none did before. -/
theorem quiet_peel (forest : template.IsForest)
    (quiet : template.Quiet literalFallback context) :
    (template.peel literalFallback context).Quiet literalFallback context := by
  induction forest with
  | done => trivial
  | text content _ ih => exact ih quiet
  | guarded header inside _ _ ih =>
      obtain ⟨_, body, next⟩ := quiet
      exact (selected header inside .done).quiet_append (quiet_selected header body trivial)
        (ih next)
  | either header inside otherwise _ _ _ ih =>
      obtain ⟨_, body, alternative, next⟩ := quiet
      exact (selected header inside otherwise).quiet_append
        (quiet_selected header body alternative) (ih next)

/-- A pass over conditions resolves one level. -/
theorem peels (forest : template.IsForest) (quiet : template.Quiet literalFallback context) :
    Peels literalFallback context template (template.peel literalFallback context) := by
  induction forest with
  | done => exact .done
  | text content _ ih => exact .text content (ih quiet)
  | guarded header _ _ _ ih =>
      obtain ⟨⟨chosen, holds⟩, _, next⟩ := quiet
      rw [Template.peel, Template.selected, IfHeader.selects_eq holds]
      exact .guarded holds (ih next)
  | either header _ _ _ _ _ ih =>
      obtain ⟨⟨chosen, holds⟩, _, _, next⟩ := quiet
      rw [Template.peel, Template.selected, IfHeader.selects_eq holds]
      exact .either holds (ih next)

theorem fills (interpolation : Interpolation) (context : Entries) (forest : template.IsForest) :
    interpolation.Fills context template.print (.ok template.print) := by
  have endif := fills_reserved interpolation context endifWord_isBraceFree (by decide) (by decide)
  have separator := fills_reserved interpolation context elseWord_isBraceFree (by decide)
    (by decide)
  have opener := fun header : IfHeader => fills_reserved interpolation context
    header.interior_isBraceFree (interior_ne_nil header) header.isReserved_interior
  induction forest with
  | done => exact .nil
  | text content _ ih => exact .append (.inert content.inert) ih
  | guarded header _ _ insideIH ih =>
      exact .append (.append (.append (opener header) insideIH) endif) ih
  | either header _ _ _ insideIH otherwiseIH ih =>
      exact .append (.append (.append (.append (.append (opener header) insideIH) separator)
        otherwiseIH) endif) ih

theorem length_blocks (forest : template.IsForest) :
    (Layout.ofText BlockTags.ofIf.marks template.print).blocks.length =
      (template.branches literalFallback context).length := by
  induction forest with
  | done => simp [print, Layout.ofText, Matcher.pieces, Layout.ofPieces, Layout.blocks, branches]
  | @text next content _ ih =>
      rw [print, branches, Layout.ofText_plain_append BlockTags.ofIf
        (Matcher.pieces_inert_append BlockTags.ofIf.opens content.inert _), Layout.blocks_push, ih]
  | @guarded body next header _ _ _ ih =>
      rw [print_guarded, Layout.ofText_block _ header.frame (balanced_ifMarks body),
        Layout.blocks_addBlock, branches, List.length_cons, List.length_cons, ih]
  | @either body alternative next header _ _ _ _ _ ih =>
      rw [print_either, Layout.ofText_dividedBlock _ header.frame elseWord_isBraceFree
        elseWord_separates (balanced_ifMarks body) (balanced_ifMarks alternative),
        Layout.blocks_addBlock, branches, List.length_cons, List.length_cons, ih]

theorem resolved (forest : template.IsForest) (levels : Nat) :
    (template.resolved literalFallback context levels).IsForest := by
  induction levels generalizing template with
  | zero => rwa [resolved_zero]
  | succ levels ih =>
      rw [resolved_succ]
      exact ih forest.peel

/-- A resolved forest has no blocks exactly if no chain of selected branches is
longer than the levels that are resolved. -/
theorem blocks_resolved_eq_nil_iff (forest : template.IsForest) (levels : Nat) :
    (Layout.ofText BlockTags.ofIf.marks
        (template.resolved literalFallback context levels).print).blocks = [] ↔
      ∀ chain, Chain literalFallback context template chain → chain.length ≤ levels := by
  rw [← branches_resolved_eq_nil_iff, ← List.length_eq_zero_iff, ← List.length_eq_zero_iff,
    (forest.resolved levels).length_blocks]

end IsForest

end Template

namespace Rendering

variable (rendering : Rendering) {data : Entries} {template : Template}

/-- A cycle resolves one level of a forest. -/
theorem outcome_cycle_forest (forest : template.IsForest)
    (quiet : template.Quiet rendering.loops.literalFallback data) :
    (rendering.cycle data template.print).outcome =
      .ok (template.peel rendering.loops.literalFallback data).print := by
  have loops : (rendering.loops.pass template.print data).outcome = .ok template.print := by
    rw [Loop.Setting.pass, Loop.Setting.outcome_passWithin]
    exact (Template.rewrites_of_loopFree _ forest.loopDepth_eq_zero).whole
  have conditions := (forest.peels quiet).conditionPass
  have peeled : (template.peel rendering.loops.literalFallback data).IsForest := forest.peel
  rw [outcome_cycle, loops]
  show (Condition.pass _ data template.print >>= _) = _
  rw [conditions]
  exact (peeled.fills rendering.loops.interpolation data).whole

theorem repeated_cycle_forest (forest : template.IsForest)
    (quiet : template.Quiet rendering.loops.literalFallback data) (levels : Nat) :
    repeated (fun text => (rendering.cycle data text).outcome) levels template.print =
      .ok (template.resolved rendering.loops.literalFallback data levels).print := by
  induction levels generalizing template with
  | zero =>
      rw [Template.resolved_zero]
      rfl
  | succ levels ih =>
      rw [repeated, rendering.outcome_cycle_forest forest quiet, Template.resolved_succ]
      exact ih forest.peel (forest.quiet_peel quiet)

end Rendering

namespace Engine

/-- The pass over the conditions of a forest puts the selected branch, as it is, in
the place of each outermost block; the cycles of a render resolve as many levels as
there may be cycles; and what comes out has no block exactly if no chain of selected
branches is longer than that. -/
theorem renderText_forest {template : Template} (forest : template.IsForest) {data : Entries}
    {literalFallback : Bool} (quiet : template.Quiet literalFallback data) :
    Condition.pass literalFallback data template.print =
        .ok (template.peel literalFallback data).print ∧
      ∀ (engine : Engine) (options : Options), engine.config.literalFallback = literalFallback →
        let left := template.resolved literalFallback data engine.config.maxPasses
        ((engine.rendering options).cycles data template.print).outcome = .ok left.print ∧
          (engine.hooks = none →
            (engine.renderText options data template.print).outcome = .ok left.print) ∧
          ((Layout.ofText Tag.ifMarks left.print).blocks = [] ↔
            ∀ chain, Template.Chain literalFallback data template chain →
              chain.length ≤ engine.config.maxPasses) := by
  refine ⟨(forest.peels quiet).conditionPass, ?_⟩
  rintro engine options rfl left
  have cycles : repeated (fun text => ((engine.rendering options).cycle data text).outcome)
      engine.config.maxPasses template.print = .ok left.print :=
    (engine.rendering options).repeated_cycle_forest forest quiet engine.config.maxPasses
  refine ⟨?_, ?_, forest.blocks_resolved_eq_nil_iff engine.config.maxPasses⟩
  · rw [Rendering.outcome_cycles]
    exact cycles
  · intro noHooks
    rw [outcome_renderText options noHooks, cycles]

/-- A block inside a block, both of which a single cycle would have to resolve. -/
theorem renderText_blockInBlock :
    let header : IfHeader := ⟨['a'], by decide, by decide⟩
    let inner : Template := .guarded header (.text ⟨['x'], by decide⟩ .done) .done
    let data : Entries := [(.text ['a'], .bool true)]
    (Template.guarded header inner .done).print = "{{if a}}{{if a}}x{{endif}}{{endif}}".toList ∧
      ((standard.withCycles 1).renderText Options.default data
        (Template.guarded header inner .done).print).outcome = .ok "{{if a}}x{{endif}}".toList ∧
      (Layout.ofText Tag.ifMarks "{{if a}}x{{endif}}".toList).blocks ≠ [] := by
  intro header inner data
  have forest : (Template.guarded header inner .done).IsForest :=
    .guarded header (.guarded header (.text _ .done) .done) .done
  have quiet : (Template.guarded header inner .done).Quiet true data :=
    ⟨⟨true, rfl⟩, ⟨⟨true, rfl⟩, trivial, trivial⟩, trivial⟩
  obtain ⟨_, rendered⟩ := renderText_forest forest quiet
  obtain ⟨_, render, left⟩ := rendered (standard.withCycles 1) Options.default rfl
  have selects : header.selects true data = true := IfHeader.selects_eq rfl
  have level : (Template.guarded header inner .done).resolved true data 1 = inner := by
    rw [Template.resolved, selects, if_pos rfl, Template.resolved_zero]
    rfl
  have printed : inner.print = "{{if a}}x{{endif}}".toList := by decide
  have passes : (standard.withCycles 1).config.maxPasses = 1 := rfl
  rw [passes, level, printed] at render left
  refine ⟨by decide, render rfl, ?_⟩
  have chosen : ∀ body : Template, Template.selected true data header body .done = body := by
    intro body
    rw [Template.selected, selects, if_pos rfl]
  have first : inner ∈ (Template.guarded header inner .done).branches true data := by
    rw [Template.branches, chosen]
    exact List.mem_cons_self
  have second : Template.text ⟨['x'], by decide⟩ .done ∈ inner.branches true data := by
    rw [Template.branches, chosen]
    exact List.mem_cons_self
  intro none
  have short := left.mp none _ (.cons first (.cons second (.nil _)))
  exact absurd short (by decide)

end Engine

end Stencil
