import Stencil.Proofs.Template.Rendered

/-!
# Blocks inside two loops

The pass over the conditions of an iteration does not know where loops begin
and end.  It reaches the bodies of the loops inside the iteration before they
are expanded, so that a block inside two loops is decided in the context of the
outer one, once for all iterations of the inner one.
-/

namespace Stencil

namespace Template

def block (header : IfHeader) (body : Template) (alternative : Option Template)
    (next : Template) : Template :=
  match alternative with
  | none => guarded header body next
  | some alternative => either header body alternative next

def literal (content : Text.Inert) : Template :=
  text content done

theorem result_block {setting : Loop.Setting} {standing after : Standing} {decider : Entries}
    (due : standing.next? = some (decider, after)) (header : IfHeader) (body : Template)
    (alternative : Option Template) (next : Template) :
    result setting standing (block header body alternative next) =
      (if header.selects setting.literalFallback decider then result setting after body
        else result setting after (alternative.getD done)) ++ result setting standing next := by
  cases alternative with
  | none =>
      rw [block, result, due]
      rfl
  | some alternative =>
      rw [block, result, due]
      rfl

theorem calm_block_literal (literalFallback : Bool) (pending : List Entries) (header : IfHeader)
    (first second : Text.Inert) (next : Template)
    (calm : Calm literalFallback pending (block header done none next)) :
    Calm literalFallback pending (block header (literal first) (some (literal second)) next) := by
  refine ⟨?_, calm.2⟩
  cases pending with
  | nil => trivial
  | cons decider pending => exact ⟨calm.1.1, trivial, trivial⟩

theorem sound_block_literal (setting : Loop.Setting) (standing : Standing) (header : IfHeader)
    (first second : Text.Inert) (next : Template)
    (sound : Sound setting standing (block header done none next)) :
    Sound setting standing (block header (literal first) (some (literal second)) next) := by
  refine ⟨?_, sound.2⟩
  have here := sound.1
  cases due : standing.next? with
  | none => exact ⟨trivial, trivial⟩
  | some found =>
      rw [due] at here
      exact ⟨here.1, trivial, trivial⟩

end Template

/-- Two loops, one in the body of the other, with the place of a block in the
body of the inner one. -/
structure NestedBlock where
  outer : LoopHeader
  /-- What stands before and after the inner loop. -/
  lead : Template
  trail : Template
  inner : LoopHeader
  /-- What stands before and after the block. -/
  before : Template
  after : Template
  header : IfHeader

namespace NestedBlock

open Template

variable (nested : NestedBlock)

/-- The loops with a block that has given branches. -/
def template (body : Template) (alternative : Option Template) : Template :=
  loop nested.outer
    (nested.lead ++ loop nested.inner
      (nested.before ++ block nested.header body alternative nested.after) nested.trail)
    done

variable (setting : Loop.Setting) (standing : Standing)

/-- Where the body of the outer loop stands in an iteration. -/
def outside (first : Value × Value) : Standing :=
  standing.enter setting.passes (nested.outer.scope standing.context first)

/-- Where the body of the inner loop stands in an iteration. -/
def inside (first second : Value × Value) : Standing :=
  (nested.outside setting standing first).enter setting.passes
    (nested.inner.scope (nested.outside setting standing first).context second)

/-- The iterations of the inner loop in one of the outer loop. -/
def innerEntries (first : Value × Value) : Entries :=
  nested.inner.entries (nested.outside setting standing first).context

/-- Where the branches stand once the pass of the outer iteration has been
over them. -/
def branches (first second : Value × Value) : Standing :=
  { nested.inside setting standing first second with
    pending := (nested.inside setting standing first second).pending.tail }

/-- The text of the branch that a context selects. -/
def branch (decider : Entries) (body : Template) (alternative : Option Template)
    (first second : Value × Value) : Text :=
  if nested.header.selects setting.literalFallback decider then
    result setting (nested.branches setting standing first second) body
  else result setting (nested.branches setting standing first second) (alternative.getD done)

/-- The text of an iteration of the inner loop, for the text of the branch. -/
def innerText (branch : Text) (first second : Value × Value) : Text :=
  result setting (nested.inside setting standing first second) nested.before ++ branch
    ++ result setting (nested.inside setting standing first second) nested.after

/-- The texts of all iterations one after the other, where the context that
selects the branch is chosen among the two contexts of an iteration. -/
def concatenation (decider : Entries → Entries → Entries) (body : Template)
    (alternative : Option Template) : Text :=
  (nested.outer.entries standing.context).flatMap fun first =>
    result setting (nested.outside setting standing first) nested.lead
      ++ ((nested.innerEntries setting standing first).flatMap fun second =>
        nested.innerText setting standing
          (nested.branch setting standing
            (decider (nested.outside setting standing first).context
              (nested.inside setting standing first second).context)
            body alternative first second) first second)
      ++ result setting (nested.outside setting standing first) nested.trail

/-- A block inside two loops is decided in the context of the outer iteration. -/
theorem result_template {standing : Standing} (started : standing.pending = [])
    (body : Template) (alternative : Option Template) :
    result setting standing (nested.template body alternative) =
      nested.concatenation setting standing (fun outside _ => outside) body alternative := by
  obtain ⟨pending, later, context, outer⟩ := standing
  cases started
  rw [template, result, result, List.append_nil, concatenation]
  apply List.flatMap_congr
  intro first _
  show result setting (nested.outside setting _ first) _ = _
  rw [result_append, result, List.append_assoc]
  congr 2
  apply List.flatMap_congr
  intro second _
  show result setting (nested.inside setting _ first second) _ = _
  have due : (nested.inside setting ⟨[], later, context, outer⟩ first second).next? =
      some ((nested.outside setting ⟨[], later, context, outer⟩ first).context,
        nested.branches setting ⟨[], later, context, outer⟩ first second) := rfl
  rw [result_append, result_block due, innerText, List.append_assoc]
  rfl

theorem eq_of_flatMap_eq {list : List α} {first second : α → Text}
    (lengths : ∀ member ∈ list, (first member).length = (second member).length)
    (same : list.flatMap first = list.flatMap second) :
    ∀ member ∈ list, first member = second member := by
  induction list with
  | nil => simp
  | cons head tail ih =>
      rw [List.flatMap_cons, List.flatMap_cons] at same
      obtain ⟨here, later⟩ := List.append_inj same (lengths head List.mem_cons_self)
      intro member among
      rcases List.mem_cons.mp among with rfl | inside
      · exact here
      · exact ih (fun other there => lengths other (List.mem_cons_of_mem head there)) later
          member inside

theorem length_flatMap_congr {list : List α} {first second : α → Text}
    (lengths : ∀ member ∈ list, (first member).length = (second member).length) :
    (list.flatMap first).length = (list.flatMap second).length := by
  induction list with
  | nil => rfl
  | cons head tail ih =>
      rw [List.flatMap_cons, List.flatMap_cons, List.length_append, List.length_append,
        lengths head List.mem_cons_self,
        ih fun member among => lengths member (List.mem_cons_of_mem head among)]

/-- The text of a branch that tells which one it is. -/
def mark (first : Bool) : Text.Inert :=
  if first then .ofText ['T'] else .ofText ['F']

theorem branch_mark (decider : Entries) (first second : Value × Value) :
    nested.branch setting standing decider (literal (mark true)) (some (literal (mark false)))
        first second =
      (mark (nested.header.selects setting.literalFallback decider)).text := by
  rw [branch]
  cases nested.header.selects setting.literalFallback decider <;> rfl

theorem length_mark (first : Bool) : (mark first).text.length = 1 := by
  cases first <;> rfl

/-- If the choice of the context makes no difference to the text, whatever the
branches are, then it makes none to any condition. -/
theorem selects_eq_of_concatenation_eq (one other : Entries → Entries → Entries)
    (same : nested.concatenation setting standing one (literal (mark true))
        (some (literal (mark false))) =
      nested.concatenation setting standing other (literal (mark true))
        (some (literal (mark false)))) :
    ∀ first ∈ nested.outer.entries standing.context,
      ∀ second ∈ nested.innerEntries setting standing first,
        nested.header.selects setting.literalFallback
            (one (nested.outside setting standing first).context
              (nested.inside setting standing first second).context) =
          nested.header.selects setting.literalFallback
            (other (nested.outside setting standing first).context
              (nested.inside setting standing first second).context) := by
  intro first member second among
  have lengths : ∀ (first second : Value × Value) (left right : Bool),
      (nested.innerText setting standing (mark left).text first second).length =
        (nested.innerText setting standing (mark right).text first second).length := by
    intro first second left right
    simp only [innerText, List.length_append, length_mark]
  simp only [concatenation, branch_mark] at same
  have outerSame := eq_of_flatMap_eq (by
    intro first _
    simp only [List.length_append]
    rw [length_flatMap_congr fun second _ => lengths first second _ _]) same first member
  have innerSame := eq_of_flatMap_eq (fun second _ => lengths first second _ _)
    (List.append_cancel_left (List.append_cancel_right outerSame)) second among
  have marks := List.append_cancel_left (List.append_cancel_right innerSame)
  revert marks
  generalize nested.header.selects setting.literalFallback _ = left
  generalize nested.header.selects setting.literalFallback _ = right
  cases left <;> cases right <;> decide

theorem sound_literal (nested : NestedBlock) {setting : Loop.Setting} {standing : Standing}
    (sound : (nested.template done none).Sound setting standing) (first second : Text.Inert) :
    (nested.template (literal first) (some (literal second))).Sound setting standing := by
  obtain ⟨iterations, _⟩ := sound
  refine ⟨?_, trivial⟩
  intro entry member
  obtain ⟨calm, inside⟩ := iterations entry member
  rw [calm_append] at calm ⊢
  rw [sound_append] at inside ⊢
  obtain ⟨calmLead, calmBody, calmTrail⟩ := calm
  obtain ⟨soundLead, innerIterations, soundTrail⟩ := inside
  rw [calm_append] at calmBody
  refine ⟨⟨calmLead, ?_, calmTrail⟩, soundLead, ?_, soundTrail⟩
  · rw [calm_append]
    exact ⟨calmBody.1, calm_block_literal _ _ _ first second _ calmBody.2⟩
  · intro other among
    obtain ⟨calmInner, soundInner⟩ := innerIterations other among
    rw [calm_append] at calmInner ⊢
    rw [sound_append] at soundInner ⊢
    exact ⟨⟨calmInner.1, calm_block_literal _ _ _ first second _ calmInner.2⟩,
      soundInner.1, sound_block_literal setting _ _ first second _ soundInner.2⟩

end NestedBlock

namespace Engine

open Template

/-- A block inside two loops is decided in the context of the iteration of the
outer loop.  That this is what the context of the iteration of the inner loop
would decide, whatever the branches are, means that the two contexts decide
the condition alike in every iteration. -/
theorem renderText_nestedBlock {engine : Engine} (ready : engine.Ready) (options : Options)
    {data : Entries} (plain : data.IsPlain) (nested : NestedBlock)
    (sound : (nested.template done none).Sound (engine.rendering options).loops
      (.root engine.config.maxPasses data)) :
    (∀ body alternative,
      (nested.template body alternative).Sound (engine.rendering options).loops
          (.root engine.config.maxPasses data) →
        (engine.renderText options data (nested.template body alternative).print).outcome =
          .ok (nested.concatenation (engine.rendering options).loops
            (.root engine.config.maxPasses data) (fun outside _ => outside) body alternative)) ∧
    ((∀ body alternative,
      (nested.template body alternative).Sound (engine.rendering options).loops
          (.root engine.config.maxPasses data) →
        (engine.renderText options data (nested.template body alternative).print).outcome =
          .ok (nested.concatenation (engine.rendering options).loops
            (.root engine.config.maxPasses data) (fun _ inside => inside) body alternative)) ↔
      ∀ first ∈ nested.outer.entries data,
        ∀ second ∈ nested.inner.entries (nested.outer.scope data first),
          nested.header.selects engine.config.literalFallback (nested.outer.scope data first) =
            nested.header.selects engine.config.literalFallback
              (nested.inner.scope (nested.outer.scope data first) second)) := by
  have decided : ∀ body alternative,
      (nested.template body alternative).Sound (engine.rendering options).loops
          (.root engine.config.maxPasses data) →
        (engine.renderText options data (nested.template body alternative).print).outcome =
          .ok (nested.concatenation (engine.rendering options).loops
            (.root engine.config.maxPasses data) (fun outside _ => outside) body
              alternative) := by
    intro body alternative soundHere
    rw [outcome_renderText_print options ready plain soundHere,
      nested.result_template (engine.rendering options).loops rfl body alternative]
  refine ⟨decided, ?_, ?_⟩
  · intro agreed
    have soundMarks := nested.sound_literal sound (NestedBlock.mark true) (NestedBlock.mark false)
    have one := decided _ _ soundMarks
    rw [agreed _ _ soundMarks] at one
    injection one with same
    intro first member second among
    exact (nested.selects_eq_of_concatenation_eq _ _ _ _ same first member second among).symm
  · intro alike body alternative soundHere
    rw [decided body alternative soundHere]
    congr 1
    rw [NestedBlock.concatenation, NestedBlock.concatenation]
    apply List.flatMap_congr
    intro first member
    congr 2
    apply List.flatMap_congr
    intro second among
    congr 1
    have same := alike first member second among
    rw [NestedBlock.branch, NestedBlock.branch]
    simp only [NestedBlock.outside, NestedBlock.inside, Standing.enter, Standing.root]
    show (if nested.header.selects engine.config.literalFallback _ then _ else _) = _
    rw [same]
    rfl

/-- A block on each cell of each row. -/
def cellBlock : NestedBlock where
  outer := ⟨⟨"rows".toList, by decide +kernel⟩,
    some (⟨"i".toList, by decide +kernel⟩, ⟨"r".toList, by decide +kernel⟩)⟩
  lead := done
  trail := done
  inner := ⟨⟨"r.cells".toList, by decide +kernel⟩,
    some (⟨"j".toList, by decide +kernel⟩, ⟨"c".toList, by decide +kernel⟩)⟩
  before := done
  after := done
  header := ⟨"c".toList, by decide, by decide⟩

/-- One row of a cell that holds and a cell that does not. -/
def cellData : Entries :=
  [(.text "rows".toList, .list 2
    [.map 3 false [(.text "cells".toList, .list 4 [.bool true, .bool false])]])]

/-- The name of the cells stands for nothing in the context of a row, so that
both cells are taken not to hold. -/
theorem renderText_cellBlock :
    (standard.renderText Options.default cellData
        (cellBlock.template (literal (NestedBlock.mark true))
          (some (literal (NestedBlock.mark false)))).print).outcome = .ok "FF".toList ∧
      cellBlock.concatenation (standard.rendering Options.default).loops (.root 10 cellData)
        (fun _ inside => inside) (literal (NestedBlock.mark true))
        (some (literal (NestedBlock.mark false))) = "TF".toList := by
  have sound : (cellBlock.template done none).Sound (standard.rendering Options.default).loops
      (.root standard.config.maxPasses cellData) := by
    refine ⟨?_, trivial⟩
    intro row _
    refine ⟨⟨⟨⟨⟨_, rfl⟩, trivial⟩, trivial⟩, trivial⟩, ?_, trivial⟩
    intro cell _
    exact ⟨⟨⟨⟨_, rfl⟩, trivial⟩, trivial⟩, ⟨⟨_, rfl⟩, trivial⟩, trivial⟩
  have marks := cellBlock.sound_literal sound (NestedBlock.mark true) (NestedBlock.mark false)
  have rendered := (renderText_nestedBlock standard_ready Options.default (by decide +kernel)
    cellBlock sound).1 _ _ marks
  refine ⟨?_, by decide +kernel⟩
  rw [rendered]
  have text : cellBlock.concatenation (standard.rendering Options.default).loops
      (.root standard.config.maxPasses cellData) (fun outside _ => outside)
      (literal (NestedBlock.mark true)) (some (literal (NestedBlock.mark false))) =
        "FF".toList := by
    decide +kernel
  rw [text]

end Engine

end Stencil
