import Stencil.Proofs.Template.Rendered

/-!
# Renders side by side

Two renders of one text, under two settings and with two contexts, are compared
pass by pass.  The second one comes to the same text as the first one, or both
fail, or the second one fails at something that the comparison puts up with.  If
that holds of conditions, of expressions and of what an iteration begins with,
then it holds of loops of any depth, of every cycle and of all cycles.
-/

namespace Stencil

/-- On what terms two renders are compared: on which texts, in which contexts,
which faults count as the same, and which ones may stand in place of any
outcome. -/
structure Terms where
  fine : Text → Prop
  agree : Entries → Entries → Prop
  alike : Fault → Fault → Prop
  spoils : Fault → Prop

namespace Terms

variable (terms : Terms)

/-- Whether a computation ends as another one does, as far as the terms go. -/
inductive Follows (related : α → β → Prop) : Except Fault α → Except Fault β → Prop where
  | ok {value : α} {other : β} (here : related value other) :
      Follows related (.ok value) (.ok other)
  | error {fault other : Fault} (here : terms.alike fault other) :
      Follows related (.error fault) (.error other)
  | spoilt {outcome : Except Fault α} {fault : Fault} (here : terms.spoils fault) :
      Follows related outcome (.error fault)

/-- Whether two texts are one that the terms allow. -/
def Same (text other : Text) : Prop :=
  text = other ∧ terms.fine text

variable {terms}

namespace Follows

variable {related : α → β → Prop} {later : γ → δ → Prop}

theorem bind {outcome : Except Fault α} {other : Except Fault β} {next : α → Except Fault γ}
    {nextOther : β → Except Fault δ} (first : terms.Follows related outcome other)
    (goesOn : ∀ value result, related value result →
      terms.Follows later (next value) (nextOther result)) :
    terms.Follows later (outcome >>= next) (other >>= nextOther) := by
  cases first with
  | ok here => exact goesOn _ _ here
  | error here => exact .error here
  | spoilt here => exact .spoilt here

theorem refl (alike : ∀ fault, terms.alike fault fault) {same : α → α → Prop}
    {outcome : Except Fault α} (fine : ∀ value, outcome = .ok value → same value value) :
    terms.Follows same outcome outcome := by
  cases outcome with
  | ok value => exact .ok (fine value rfl)
  | error fault => exact .error (alike fault)

variable (empty : terms.fine [])
  (append : ∀ first last, terms.fine first → terms.fine last → terms.fine (first ++ last))

include append

theorem together {first other last lastOther : Except Fault Text}
    (here : terms.Follows terms.Same first other)
    (there : terms.Follows terms.Same last lastOther) :
    terms.Follows terms.Same (together first last) (together other lastOther) := by
  apply here.bind
  rintro text _ ⟨rfl, fine⟩
  apply there.bind
  rintro rest _ ⟨rfl, fineRest⟩
  exact .ok ⟨rfl, append text rest fine fineRest⟩

include empty

theorem joined {render other : α → Except Fault Text} {list : List α}
    (each : ∀ member ∈ list, terms.Follows terms.Same (render member) (other member)) :
    terms.Follows terms.Same (joined render list) (joined other list) := by
  induction list with
  | nil => exact .ok ⟨rfl, empty⟩
  | cons first list ih =>
      exact together append (each first List.mem_cons_self)
        (ih fun member among => each member (List.mem_cons_of_mem first among))

omit empty

theorem replace {block other : Block → Except Fault Text} {layout : Layout}
    (gaps : ∀ part ∈ layout.parts, terms.fine part.1) (tail : terms.fine layout.tail)
    (each : ∀ part ∈ layout.parts,
      terms.Follows terms.Same (block part.2) (other part.2)) :
    terms.Follows terms.Same (layout.replace block) (layout.replace other) := by
  obtain ⟨parts, rest⟩ := layout
  show terms.Follows terms.Same (Layout.weave pure block parts rest)
    (Layout.weave pure other parts rest)
  induction parts with
  | nil => exact .ok ⟨rfl, tail⟩
  | cons part parts ih =>
      obtain ⟨gap, found⟩ := part
      rw [Layout.weave, Layout.weave]
      have gapFine : terms.fine gap := gaps (gap, found) List.mem_cons_self
      have here := each (gap, found) List.mem_cons_self
      have rest := ih (fun part member => gaps part (List.mem_cons_of_mem _ member)) tail
        fun part member => each part (List.mem_cons_of_mem _ member)
      apply here.bind
      rintro written _ ⟨rfl, writtenFine⟩
      apply rest.bind
      rintro later _ ⟨rfl, laterFine⟩
      exact .ok ⟨rfl, append _ later (append gap written gapFine writtenFine) laterFine⟩

omit append

theorem repeated {pass other : Text → Except Fault Text}
    (each : ∀ text, terms.fine text → terms.Follows terms.Same (pass text) (other text))
    (count : Nat) {text : Text} (fine : terms.fine text) :
    terms.Follows terms.Same (repeated pass count text) (repeated other count text) := by
  induction count generalizing text with
  | zero => exact .ok ⟨rfl, fine⟩
  | succ count ih =>
      apply (each text fine).bind
      rintro next _ ⟨rfl, nextFine⟩
      exact ih nextFine

end Follows

end Terms

namespace Loop

/-- The text that an iteration begins with. -/
def started (block : Block) (spec : Spec) (context : Entries) (entry : Value × Value) :
    Except Fault Text := do
  let parts ← partBindings spec.valueName entry.2
  let names ← nameBindings (scope spec context entry.1 entry.2)
  return bindOutside (parts ++ names) block.body

/-- Two settings under which passes go on alike, as far as the terms go. -/
structure Setting.Parallel (terms : Terms) (left right : Setting) : Prop where
  passes : left.passes = right.passes
  alike : ∀ fault, terms.alike fault fault
  empty : terms.fine []
  append : ∀ first last, terms.fine first → terms.fine last → terms.fine (first ++ last)
  gaps : ∀ {text}, terms.fine text →
    ∀ part ∈ (Layout.ofText Tag.foreachMarks text).parts, terms.fine part.1
  tail : ∀ {text}, terms.fine text → terms.fine (Layout.ofText Tag.foreachMarks text).tail
  conditions : ∀ {context other text}, terms.agree context other → terms.fine text →
    terms.Follows terms.Same (Condition.pass left.literalFallback context text)
      (Condition.pass right.literalFallback other text)
  expressions : ∀ {context other text}, terms.agree context other → terms.fine text →
    terms.Follows terms.Same (left.interpolation.pass context text).outcome
      (right.interpolation.pass other text).outcome
  targets : ∀ {context other text}, terms.agree context other → terms.fine text →
    ∀ part ∈ (Layout.ofText Tag.foreachMarks text).parts,
      Entries.resolve (Spec.ofText part.2.header).target context =
        Entries.resolve (Spec.ofText part.2.header).target other
  scopes : ∀ {context other text}, terms.agree context other → terms.fine text →
    ∀ part ∈ (Layout.ofText Tag.foreachMarks text).parts, ∀ entries,
      targetEntries? (Entries.resolve (Spec.ofText part.2.header).target context) =
        some entries →
      ∀ entry ∈ entries,
        terms.agree (scope (Spec.ofText part.2.header) context entry.1 entry.2)
          (scope (Spec.ofText part.2.header) other entry.1 entry.2)
  starts : ∀ {context other text}, terms.agree context other → terms.fine text →
    ∀ part ∈ (Layout.ofText Tag.foreachMarks text).parts, ∀ entries,
      targetEntries? (Entries.resolve (Spec.ofText part.2.header).target context) =
        some entries →
      ∀ entry ∈ entries,
        terms.Follows terms.Same (started part.2 (Spec.ofText part.2.header) context entry)
          (started part.2 (Spec.ofText part.2.header) other entry)

namespace Setting

theorem outcome_iteration_eq_started (setting : Setting) (inner : Text → Entries → Logged Text)
    (block : Block) (spec : Spec) (context : Entries) (entry : Value × Value) :
    (setting.iteration inner block spec context entry).outcome =
      started block spec context entry >>=
        repeated
          (fun text => (setting.cycle inner (scope spec context entry.1 entry.2) text).outcome)
          setting.passes := by
  rw [outcome_iteration, started]
  cases partBindings spec.valueName entry.2 with
  | error fault => rfl
  | ok parts => cases nameBindings (scope spec context entry.1 entry.2) <;> rfl

namespace Parallel

variable {terms : Terms} {left right : Setting} (parallel : Parallel terms left right)
  {inner innerOther : Text → Entries → Logged Text}
  (inside : ∀ {context other text}, terms.agree context other → terms.fine text →
    terms.Follows terms.Same (inner text context).outcome (innerOther text other).outcome)
  {context other : Entries} (agree : terms.agree context other) {text : Text}
  (fine : terms.fine text)

include parallel agree fine

include inside in
theorem follows_cycle :
    terms.Follows terms.Same (left.cycle inner context text).outcome
      (right.cycle innerOther other text).outcome := by
  rw [outcome_cycle, outcome_cycle]
  apply (parallel.conditions agree fine).bind
  rintro chosen _ ⟨rfl, chosenFine⟩
  apply (inside agree chosenFine).bind
  rintro expanded _ ⟨rfl, expandedFine⟩
  exact parallel.expressions agree expandedFine

include inside in
theorem follows_expand {part : Text × Block}
    (member : part ∈ (Layout.ofText Tag.foreachMarks text).parts) :
    terms.Follows terms.Same (left.expand inner context part.2).outcome
      (right.expand innerOther other part.2).outcome := by
  rw [expand, expand, ← parallel.targets agree fine part member]
  cases found : targetEntries? (Entries.resolve (Spec.ofText part.2.header).target context) with
  | none => exact .ok ⟨rfl, parallel.empty⟩
  | some entries =>
      show terms.Follows terms.Same (Logged.concat _ entries).outcome
        (Logged.concat _ entries).outcome
      rw [Logged.outcome_concat, Logged.outcome_concat]
      apply Terms.Follows.joined parallel.empty parallel.append
      intro entry among
      have within := parallel.scopes agree fine part member entries found entry among
      rw [outcome_iteration_eq_started, outcome_iteration_eq_started, ← parallel.passes]
      apply (parallel.starts agree fine part member entries found entry among).bind
      rintro body _ ⟨rfl, bodyFine⟩
      exact Terms.Follows.repeated
        (fun next nextFine => follows_cycle parallel inside within nextFine) left.passes bodyFine

theorem follows_passWithin (depth : Nat) :
    terms.Follows terms.Same (left.passWithin depth text context).outcome
      (right.passWithin depth text other).outcome := by
  -- An iteration has a context of its own, so the induction is for all that agree.
  induction depth generalizing context other text with
  | zero =>
      rw [outcome_passWithin, outcome_passWithin]
      apply Terms.Follows.replace parallel.append (parallel.gaps fine) (parallel.tail fine)
      intro part member
      exact .error (parallel.alike _)
  | succ depth ih =>
      have inside : ∀ {context other : Entries} {text : Text}, terms.agree context other →
          terms.fine text → terms.Follows terms.Same (left.passWithin depth text context).outcome
            (right.passWithin depth text other).outcome := fun agree fine => ih agree fine
      rw [outcome_passWithin, outcome_passWithin]
      apply Terms.Follows.replace parallel.append (parallel.gaps fine) (parallel.tail fine)
      intro part member
      exact parallel.follows_expand inside agree fine member

end Parallel

end Setting

end Loop

namespace Rendering

variable {terms : Terms} {left right : Rendering}
  (parallel : Loop.Setting.Parallel terms left.loops right.loops)
  {data other : Entries} (agree : terms.agree data other)

include parallel agree

theorem follows_cycle {text : Text} (fine : terms.fine text) :
    terms.Follows terms.Same (left.cycle data text).outcome (right.cycle other text).outcome := by
  rw [outcome_cycle, outcome_cycle, Loop.Setting.pass, Loop.Setting.pass]
  apply (parallel.follows_passWithin agree fine (Loop.room text)).bind
  rintro expanded _ ⟨rfl, expandedFine⟩
  apply (parallel.conditions agree expandedFine).bind
  rintro chosen _ ⟨rfl, chosenFine⟩
  exact parallel.expressions agree chosenFine

theorem follows_cycles (maxPasses : left.maxPasses = right.maxPasses) {text : Text}
    (fine : terms.fine text) :
    terms.Follows terms.Same (left.cycles data text).outcome (right.cycles other text).outcome := by
  rw [outcome_cycles, outcome_cycles, ← maxPasses]
  exact Terms.Follows.repeated (fun next nextFine => follows_cycle parallel agree nextFine)
    left.maxPasses fine

end Rendering

end Stencil
