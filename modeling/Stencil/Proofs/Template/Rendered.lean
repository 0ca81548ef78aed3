import Stencil.Engine
import Stencil.Proofs.Template.Result

/-!
# Rendering comes to the result

Every pass of a render, over the whole text or within an iteration, keeps what
a template comes to.  The first cycle leaves no loops, the last one no tag that
could still be filled in, and so the text that is left in the end is the
result.
-/

namespace Stencil

open Tag

namespace Loop.Setting

variable (setting : Loop.Setting)

/-- What becomes of a loop in the pass over the loops of a text, apart from the
log. -/
def written (context : Entries) : Nat → Block → Except Fault Text
  | 0, _ => .error .nestingTooDeep
  | depth + 1, block => (setting.expand (setting.passWithin depth) context block).outcome

theorem outcome_passWithin (depth : Nat) (text : Text) (context : Entries) :
    (setting.passWithin depth text context).outcome =
      (Layout.ofText BlockTags.ofForeach.marks text).replace (setting.written context depth) := by
  cases depth with
  | zero =>
      rw [passWithin, Layout.outcome_replace]
      rfl
  | succ depth =>
      rw [passWithin, Layout.outcome_replace]
      rfl

theorem outcome_expand (inner : Text → Entries → Logged Text) (context : Entries)
    (header : LoopHeader) (body : Text) :
    (setting.expand inner context (header.frame.block body)).outcome =
      joined (fun entry =>
          (setting.iteration inner (header.frame.block body) header.spec context entry).outcome)
        (header.entries context) := by
  have said : Spec.ofText (header.frame.block body).header = header.spec := header.spec_ofText
  rw [expand, said, LoopHeader.entries]
  cases targetEntries? (Entries.resolve header.spec.target context) with
  | some entries => exact Logged.outcome_concat _ entries
  | none => rfl

/-- An iteration binds its names, and then it is its cycles. -/
theorem outcome_iteration (inner : Text → Entries → Logged Text) (block : Block) (spec : Spec)
    (context : Entries) (entry : Value × Value) :
    (setting.iteration inner block spec context entry).outcome = (do
      let parts ← partBindings spec.valueName entry.2
      let names ← nameBindings (Loop.scope spec context entry.1 entry.2)
      repeated
        (fun text =>
          (setting.cycle inner (Loop.scope spec context entry.1 entry.2) text).outcome)
        setting.passes (bindOutside (parts ++ names) block.body)) := by
  rw [iteration]
  simp only [Logged.outcome_bind, Logged.outcome_lift, ← outcome_settle]
  cases partBindings spec.valueName entry.2 with
  | error fault => rfl
  | ok parts =>
      cases nameBindings (Loop.scope spec context entry.1 entry.2) with
      | error fault => rfl
      | ok names =>
          show Except.bind (settle _ _ _).outcome _ = Except.map _ (settle _ _ _).outcome
          cases (settle _ _ _).outcome <;> rfl

theorem outcome_cycle (inner : Text → Entries → Logged Text) (scope : Entries) (text : Text) :
    (setting.cycle inner scope text).outcome = (do
      let text ← Condition.pass setting.literalFallback scope text
      let text ← (inner text scope).outcome
      (setting.interpolation.pass scope text).outcome) := by
  simp only [cycle, Logged.outcome_bind, Logged.outcome_lift]
  rfl

end Loop.Setting

namespace Rendering

variable (rendering : Rendering) (data : Entries)

theorem outcome_cycle (text : Text) :
    (rendering.cycle data text).outcome = (do
      let text ← (rendering.loops.pass text data).outcome
      let text ← Condition.pass rendering.loops.literalFallback data text
      (rendering.loops.interpolation.pass data text).outcome) := by
  simp only [cycle, Logged.outcome_bind, Logged.outcome_lift]
  rfl

theorem outcome_cycles (text : Text) :
    (rendering.cycles data text).outcome =
      repeated (fun text => (rendering.cycle data text).outcome) rendering.maxPasses text := by
  rw [cycles, Logged.outcome_bind, ← outcome_settle]
  cases (settle _ rendering.maxPasses _).outcome <;> rfl

end Rendering

namespace Template

variable (setting : Loop.Setting)

/-- One template comes to the same after some passes as another one before
them, and has no loops. -/
structure Leaves (before after : Standing) (template left : Template) : Prop where
  loopFree : loopDepth left = 0
  result_eq : result setting after left = result setting before template
  sound : Sound setting after left

theorem rewrites_of_loopFree (render : Block → Except Fault Text) {template : Template}
    (loopFree : loopDepth template = 0) :
    Rewrites BlockTags.ofForeach.marks render template.print (.ok template.print) := by
  have closer := Rewrites.tagged BlockTags.ofForeach render endifWord_isBraceFree endifWord_silent
  have separator := Rewrites.tagged BlockTags.ofForeach render elseWord_isBraceFree
    elseWord_silent
  induction template with
  | done => exact Rewrites.nil
  | text content next ih =>
      exact Rewrites.append (Rewrites.inert content.inert) (ih loopFree)
  | tag path next ih =>
      have here := Rewrites.tagged BlockTags.ofForeach render path.isBraceFree
        path.foreachMark?_eq_none
      exact Rewrites.append here (ih loopFree)
  | guarded header body next bodyIH nextIH =>
      rw [loopDepth, Nat.max_eq_zero_iff] at loopFree
      have opener := Rewrites.tagged BlockTags.ofForeach render header.interior_isBraceFree
        header.foreachMark?_interior
      exact Rewrites.append
        (Rewrites.append (Rewrites.append opener (bodyIH loopFree.1)) closer) (nextIH loopFree.2)
  | either header body alternative next bodyIH alternativeIH nextIH =>
      rw [loopDepth, Nat.max_eq_zero_iff, Nat.max_eq_zero_iff] at loopFree
      have opener := Rewrites.tagged BlockTags.ofForeach render header.interior_isBraceFree
        header.foreachMark?_interior
      have first := Rewrites.append (Rewrites.append opener (bodyIH loopFree.1)) separator
      exact Rewrites.append
        (Rewrites.append (Rewrites.append first (alternativeIH loopFree.2.1)) closer)
        (nextIH loopFree.2.2)
  | loop header body next _ _ =>
      rw [loopDepth] at loopFree
      omega

/-- Whether the pass over loops, in which loops may be nested so deep, keeps
the result of every template. -/
def Expands (depth : Nat) : Prop :=
  ∀ (template : Template) (later : List Entries) (context : Entries) (outer : List Entries),
    context.IsPlain → loopDepth template ≤ depth →
    Sound setting ⟨[], later, context, outer⟩ template →
    ∃ left : Template,
      Rewrites BlockTags.ofForeach.marks (setting.written context depth) template.print
        (.ok left.print) ∧
      Leaves setting ⟨[], later, context, outer⟩ ⟨[], later, context, outer⟩ template left

variable {setting}

/-- One pass over conditions and one over expressions keep the result of a
template without loops. -/
theorem Leaves.fill {before : Standing} {later : List Entries} {context : Entries}
    {outer : List Entries} {template left : Template}
    (leaves : Leaves setting before ⟨[], later, context, outer⟩ template left) :
    Leaves setting before ⟨[], later, context, outer⟩ template
      (left.fill setting.interpolation.preserveUndefined context) where
  loopFree := by
    rw [loopDepth_fill]
    exact leaves.loopFree
  result_eq := by
    rw [← leaves.result_eq]
    exact result_fill setting ⟨[], later, context, outer⟩ leaves.loopFree
  sound := sound_fill setting _ context leaves.loopFree leaves.sound

theorem exists_cycle {depth : Nat} (expands : Expands setting depth) {scope : Entries}
    (plain : scope.IsPlain) (later outer : List Entries) {template : Template}
    (shallow : loopDepth template ≤ depth)
    (calm : Calm setting.literalFallback [scope] template)
    (sound : Sound setting ⟨[scope], later, scope, outer⟩ template) :
    ∃ left : Template,
      (setting.cycle (setting.passWithin depth) scope template.print).outcome =
        .ok left.print ∧
      Leaves setting ⟨[scope], later, scope, outer⟩ ⟨[], later, scope, outer⟩ template left ∧
      AllTags (Unfilled setting scope) left := by
  obtain ⟨peeled, peels⟩ := exists_peels calm
  have peeledResult := peels.result_eq [] later scope outer
  have shallower : loopDepth peeled ≤ depth := Nat.le_trans peels.loopDepth_le shallow
  obtain ⟨expanded, rewrites, leaves⟩ :=
    expands peeled later scope outer plain shallower (peels.sound sound)
  have overLoops : (setting.passWithin depth peeled.print scope).outcome = .ok expanded.print := by
    rw [Loop.Setting.outcome_passWithin]
    exact rewrites.whole
  have overTags := outcome_pass_print setting.interpolation plain expanded
  refine ⟨expanded.fill setting.interpolation.preserveUndefined scope, ?_, ?_,
    allTags_fill setting scope expanded⟩
  · rw [Loop.Setting.cycle, Logged.outcome_bind, Logged.outcome_lift, peels.conditionPass]
    show (setting.passWithin depth peeled.print scope >>=
      fun text => setting.interpolation.pass scope text).outcome = _
    rw [Logged.outcome_bind, overLoops]
    exact overTags
  · have filled := leaves.fill
    exact ⟨filled.loopFree, filled.result_eq.trans peeledResult, filled.sound⟩

/-- Without loops, the next pass may as well come before loops are expanded. -/
theorem Leaves.advance {before : Standing} {decider : Entries} {later : List Entries}
    {context : Entries} {outer : List Entries} {template left : Template}
    (leaves : Leaves setting before ⟨[], decider :: later, context, outer⟩ template left) :
    Leaves setting before ⟨[decider], later, context, outer⟩ template left where
  loopFree := leaves.loopFree
  result_eq := by
    rw [← leaves.result_eq]
    apply result_congr setting leaves.loopFree
    · rfl
    · exact allTags_of_forall (fun path => shownTag_congr setting rfl rfl path) left
  sound := by
    have queue : (Standing.mk [] (decider :: later) context outer).queue =
        (Standing.mk [decider] later context outer).queue := rfl
    exact sound_congr setting leaves.loopFree queue leaves.sound

/-- All cycles of an iteration keep the result. -/
theorem exists_cycles {depth : Nat} (expands : Expands setting depth) {scope : Entries}
    (plain : scope.IsPlain) (later outer : List Entries) (count : Nat) {template : Template}
    (shallow : loopDepth template ≤ depth)
    (calm : Calm setting.literalFallback [scope] template)
    (sound : Sound setting ⟨[scope], List.replicate count scope ++ later, scope, outer⟩
      template) :
    ∃ left : Template,
      repeated (fun text => (setting.cycle (setting.passWithin depth) scope text).outcome)
        (count + 1) template.print = .ok left.print ∧
      Leaves setting ⟨[scope], List.replicate count scope ++ later, scope, outer⟩
        ⟨[], later, scope, outer⟩ template left ∧
      AllTags (Unfilled setting scope) left := by
  induction count generalizing template with
  | zero =>
      obtain ⟨left, once, leaves, unfilled⟩ :=
        exists_cycle expands plain later outer shallow calm sound
      refine ⟨left, ?_, leaves, unfilled⟩
      rw [repeated, once]
      rfl
  | succ count ih =>
      obtain ⟨first, once, leaves, _⟩ := exists_cycle expands plain
        (List.replicate (count + 1) scope ++ later) outer shallow calm sound
      have advanced := leaves.advance
      have calmFirst := calm_of_sound setting advanced.loopFree advanced.sound
      have flat : loopDepth first ≤ depth := by
        rw [advanced.loopFree]
        exact Nat.zero_le depth
      obtain ⟨left, again, rest, unfilled⟩ := ih flat calmFirst advanced.sound
      refine ⟨left, ?_, ⟨rest.loopFree, rest.result_eq.trans advanced.result_eq, rest.sound⟩,
        unfilled⟩
      rw [repeated, once]
      exact again

/-- What an iteration leaves comes to the same outside it. -/
theorem Leaves.leave {before : Standing} {later : List Entries} {scope context : Entries}
    {outer : List Entries} {template left : Template}
    (leaves : Leaves setting before ⟨[], later, scope, context :: outer⟩ template left)
    (unfilled : AllTags (Unfilled setting scope) left) :
    Leaves setting before ⟨[], later, context, outer⟩ template left where
  loopFree := leaves.loopFree
  result_eq := by
    rw [← leaves.result_eq]
    have same : ∀ path, Unfilled setting scope path →
        shownTag setting ⟨[], later, context, outer⟩ path =
          shownTag setting ⟨[], later, scope, context :: outer⟩ path := by
      rintro path ⟨preserve, undefined⟩
      simp only [shownTag, undefined, preserve, if_true, List.findSome?_cons]
      cases context.shown? path.text <;> rfl
    exact result_congr setting leaves.loopFree rfl (unfilled.imp same)
  sound := by
    have queue : (Standing.mk [] later scope (context :: outer)).queue =
        (Standing.mk [] later context outer).queue := rfl
    exact sound_congr setting leaves.loopFree queue leaves.sound

/-- The text of an iteration comes to what the body comes to where it stands. -/
theorem exists_iteration {depth : Nat} (expands : Expands setting depth)
    (passes : 0 < setting.passes) {later : List Entries} {context : Entries}
    (plain : context.IsPlain) {outer : List Entries} (header : LoopHeader) {body : Template}
    (shallow : loopDepth body ≤ depth) {entry : Value × Value}
    (member : entry ∈ header.entries context)
    (calm : Calm setting.literalFallback [header.scope context entry] body)
    (sound : Sound setting ((Standing.mk [] later context outer).enter setting.passes
      (header.scope context entry)) body) :
    ∃ left : Template,
      (setting.iteration (setting.passWithin depth) (header.frame.block body.print) header.spec
        context entry).outcome = .ok left.print ∧
      Leaves setting ((Standing.mk [] later context outer).enter setting.passes
        (header.scope context entry)) ⟨[], later, context, outer⟩ body left := by
  have plainScope := header.isPlain_scope plain member
  obtain ⟨_, name, _, valueName⟩ := header.exists_words
  have bound : Entries.lookup name.text (header.scope context entry) = entry.2 := by
    rw [LoopHeader.scope, Loop.scope, ← valueName]
    exact Entries.lookup_set_self _ _ _
  obtain ⟨parts, names, partsBound, namesBound, agree⟩ := Loop.exists_bindings name plainScope
  rw [bound, ← valueName] at partsBound
  have scopeBound : Loop.nameBindings (Loop.scope header.spec context entry.1 entry.2) =
      .ok names.raw := namesBound
  have started := setting.outcome_iteration (setting.passWithin depth)
    (header.frame.block body.print) header.spec context entry
  rw [partsBound, scopeBound] at started
  have boundBody : Loop.bindOutside (parts ++ names).raw (header.frame.block body.print).body =
      (body.bind (parts ++ names)).print := bindOutside_print (parts ++ names) body
  have agreeHere : Loop.Agree (parts ++ names)
      ((Standing.mk [] later context outer).enter setting.passes
        (header.scope context entry)).context := agree
  have keeps := result_bind setting agreeHere body
  have boundShallow : loopDepth (body.bind (parts ++ names)) ≤ depth := by
    rw [loopDepth_bind]
    exact shallow
  obtain ⟨left, cycles, leaves, unfilled⟩ := exists_cycles expands plainScope later
    (context :: outer) (setting.passes - 1) boundShallow
    ((calm_bind setting.literalFallback _ body).mpr calm)
    ((sound_bind setting _ body).mpr sound)
  have left' := leaves.leave unfilled
  refine ⟨left, ?_, left'.loopFree, left'.result_eq.trans keeps, left'.sound⟩
  rw [started]
  show repeated _ _ (Loop.bindOutside (Bindings.raw parts ++ Bindings.raw names) _) = _
  rw [← Bindings.raw_append, boundBody]
  have whole : setting.passes - 1 + 1 = setting.passes := by omega
  rw [whole] at cycles
  exact cycles

theorem exists_joined {render : α → Except Fault Text} {text : α → Text} {standing : Standing}
    {list : List α}
    (each : ∀ member ∈ list, ∃ left : Template, render member = .ok left.print ∧
      loopDepth left = 0 ∧ result setting standing left = text member ∧
        Sound setting standing left) :
    ∃ left : Template, joined render list = .ok left.print ∧ loopDepth left = 0 ∧
      result setting standing left = list.flatMap text ∧ Sound setting standing left := by
  induction list with
  | nil => exact ⟨done, rfl, rfl, rfl, trivial⟩
  | cons first later ih =>
      obtain ⟨one, oneText, oneFree, oneResult, oneSound⟩ := each first List.mem_cons_self
      obtain ⟨rest, restText, restFree, restResult, restSound⟩ :=
        ih fun member among => each member (List.mem_cons_of_mem first among)
      refine ⟨one ++ rest, ?_, ?_, ?_, ?_⟩
      · rw [joined, oneText, restText, print_append]
        rfl
      · rw [loopDepth_append, oneFree, restFree]
        rfl
      · rw [result_append, oneResult, restResult, List.flatMap_cons]
      · exact (sound_append setting standing).mpr ⟨oneSound, restSound⟩

/-- The pass over loops keeps the result, however deep loops are nested. -/
theorem expands (passes : 0 < setting.passes) (depth : Nat) : Expands setting depth := by
  induction depth with
  | zero =>
      intro template later context outer _ shallow sound
      have loopFree : loopDepth template = 0 := Nat.le_zero.mp shallow
      exact ⟨template, rewrites_of_loopFree _ loopFree, loopFree, rfl, sound⟩
  | succ depth inner =>
      intro template
      induction template with
      | done =>
          intro later context outer _ _ _
          exact ⟨done, Rewrites.nil, rfl, rfl, trivial⟩
      | text content next ih =>
          intro later context outer plain shallow sound
          obtain ⟨left, rewrites, leaves⟩ := ih later context outer plain shallow sound
          refine ⟨text content left, Rewrites.append (Rewrites.inert content.inert) rewrites,
            leaves.loopFree, ?_, leaves.sound⟩
          rw [result, result, leaves.result_eq]
      | tag path next ih =>
          intro later context outer plain shallow sound
          obtain ⟨left, rewrites, leaves⟩ := ih later context outer plain shallow sound
          have here := Rewrites.tagged BlockTags.ofForeach (setting.written context (depth + 1))
            path.isBraceFree path.foreachMark?_eq_none
          refine ⟨tag path left, Rewrites.append here rewrites, leaves.loopFree, ?_, leaves.sound⟩
          rw [result, result, leaves.result_eq]
      | guarded header body next bodyIH nextIH =>
          intro later context outer plain shallow sound
          rw [loopDepth] at shallow
          obtain ⟨here, soundNext⟩ := sound
          obtain ⟨rest, restRewrites, restLeaves⟩ :=
            nextIH later context outer plain (by omega) soundNext
          have opener := Rewrites.tagged BlockTags.ofForeach (setting.written context (depth + 1))
            header.interior_isBraceFree header.foreachMark?_interior
          have closer := Rewrites.tagged BlockTags.ofForeach (setting.written context (depth + 1))
            endifWord_isBraceFree endifWord_silent
          cases later with
          | nil =>
              obtain ⟨inside, rewrites, leaves⟩ :=
                bodyIH [] context outer plain (by omega) here
              refine ⟨guarded header inside rest, ?_, ?_, ?_, leaves.sound, restLeaves.sound⟩
              · exact Rewrites.append
                  (Rewrites.append (Rewrites.append opener rewrites) closer) restRewrites
              · rw [loopDepth, leaves.loopFree, restLeaves.loopFree]
                rfl
              · rw [result, result, restLeaves.result_eq]
                simp only [Standing.next?, leaves.result_eq]
          | cons decider later =>
              obtain ⟨decided, soundBody⟩ := here
              obtain ⟨inside, rewrites, leaves⟩ :=
                bodyIH later context outer plain (by omega) soundBody
              refine ⟨guarded header inside rest, ?_, ?_, ?_, ⟨decided, leaves.sound⟩,
                restLeaves.sound⟩
              · exact Rewrites.append
                  (Rewrites.append (Rewrites.append opener rewrites) closer) restRewrites
              · rw [loopDepth, leaves.loopFree, restLeaves.loopFree]
                rfl
              · rw [result, result, restLeaves.result_eq]
                simp only [Standing.next?, leaves.result_eq]
      | either header body alternative next bodyIH alternativeIH nextIH =>
          intro later context outer plain shallow sound
          rw [loopDepth] at shallow
          obtain ⟨here, soundNext⟩ := sound
          obtain ⟨rest, restRewrites, restLeaves⟩ :=
            nextIH later context outer plain (by omega) soundNext
          have opener := Rewrites.tagged BlockTags.ofForeach (setting.written context (depth + 1))
            header.interior_isBraceFree header.foreachMark?_interior
          have separator := Rewrites.tagged BlockTags.ofForeach
            (setting.written context (depth + 1)) elseWord_isBraceFree elseWord_silent
          have closer := Rewrites.tagged BlockTags.ofForeach (setting.written context (depth + 1))
            endifWord_isBraceFree endifWord_silent
          cases later with
          | nil =>
              obtain ⟨inside, rewrites, leaves⟩ :=
                bodyIH [] context outer plain (by omega) here.1
              obtain ⟨otherwise, otherRewrites, otherLeaves⟩ :=
                alternativeIH [] context outer plain (by omega) here.2
              have first := Rewrites.append (Rewrites.append opener rewrites) separator
              refine ⟨either header inside otherwise rest, ?_, ?_, ?_,
                ⟨leaves.sound, otherLeaves.sound⟩, restLeaves.sound⟩
              · exact Rewrites.append
                  (Rewrites.append (Rewrites.append first otherRewrites) closer) restRewrites
              · rw [loopDepth, leaves.loopFree, otherLeaves.loopFree, restLeaves.loopFree]
                rfl
              · rw [result, result, restLeaves.result_eq]
                simp only [Standing.next?, leaves.result_eq, otherLeaves.result_eq]
          | cons decider later =>
              obtain ⟨decided, soundBody, soundAlternative⟩ := here
              obtain ⟨inside, rewrites, leaves⟩ :=
                bodyIH later context outer plain (by omega) soundBody
              obtain ⟨otherwise, otherRewrites, otherLeaves⟩ :=
                alternativeIH later context outer plain (by omega) soundAlternative
              have first := Rewrites.append (Rewrites.append opener rewrites) separator
              refine ⟨either header inside otherwise rest, ?_, ?_, ?_,
                ⟨decided, leaves.sound, otherLeaves.sound⟩, restLeaves.sound⟩
              · exact Rewrites.append
                  (Rewrites.append (Rewrites.append first otherRewrites) closer) restRewrites
              · rw [loopDepth, leaves.loopFree, otherLeaves.loopFree, restLeaves.loopFree]
                rfl
              · rw [result, result, restLeaves.result_eq]
                simp only [Standing.next?, leaves.result_eq, otherLeaves.result_eq]
      | loop header body next _ nextIH =>
          intro later context outer plain shallow sound
          rw [loopDepth] at shallow
          obtain ⟨iterations, soundNext⟩ := sound
          obtain ⟨rest, restRewrites, restLeaves⟩ :=
            nextIH later context outer plain (by omega) soundNext
          have each : ∀ entry ∈ header.entries context, ∃ left : Template,
              (setting.iteration (setting.passWithin depth) (header.frame.block body.print)
                header.spec context entry).outcome = .ok left.print ∧
              loopDepth left = 0 ∧
              result setting ⟨[], later, context, outer⟩ left =
                result setting ((Standing.mk [] later context outer).enter setting.passes
                  (header.scope context entry)) body ∧
              Sound setting ⟨[], later, context, outer⟩ left := by
            intro entry member
            obtain ⟨calmBody, soundBody⟩ := iterations entry member
            obtain ⟨left, text, leaves⟩ := exists_iteration inner passes plain header
              (by omega) member calmBody soundBody
            exact ⟨left, text, leaves.loopFree, leaves.result_eq, leaves.sound⟩
          obtain ⟨left, text, loopFree, resultEq, soundLeft⟩ := exists_joined each
          have written : setting.written context (depth + 1) (header.frame.block body.print) =
              .ok left.print := by
            rw [Loop.Setting.written, Loop.Setting.outcome_expand]
            exact text
          have here := Rewrites.block (setting.written context (depth + 1)) header.frame
            (balanced_foreachMarks body)
          rw [written] at here
          refine ⟨left ++ rest, ?_, ?_, ?_, ?_⟩
          · rw [print_loop, print_append]
            exact Rewrites.append here restRewrites
          · rw [loopDepth_append, loopFree, restLeaves.loopFree]
            rfl
          · rw [result_append, result, resultEq, restLeaves.result_eq]
          · exact (sound_append setting _).mpr ⟨soundLeft, restLeaves.sound⟩

theorem loopDepth_le_count (template : Template) :
    loopDepth template ≤ template.print.count '\x7b' := by
  induction template with
  | done => exact Nat.le_refl _
  | text content next ih =>
      rw [loopDepth, print, List.count_append]
      omega
  | tag path next ih =>
      rw [loopDepth, print, List.count_append]
      omega
  | guarded header body next bodyIH nextIH =>
      simp only [loopDepth, print, List.count_append]
      omega
  | either header body alternative next bodyIH alternativeIH nextIH =>
      simp only [loopDepth, print, List.count_append]
      omega
  | loop header body next bodyIH nextIH =>
      have opener : 0 < (tagged header.interior).count '\x7b' := by
        apply List.count_pos_iff.mpr
        simp [tagged, opening]
      simp only [loopDepth, print, List.count_append]
      omega

/-- There is room for the loops of every template. -/
theorem loopDepth_le_room (template : Template) :
    loopDepth template ≤ Loop.room template.print := by
  have bound := loopDepth_le_count template
  rw [Loop.room]
  omega

variable {rendering : Rendering} {data : Entries}

/-- A cycle over the whole text keeps the result and leaves no loops. -/
theorem exists_rootCycle (passes : 0 < rendering.loops.passes) (plain : data.IsPlain)
    (later : List Entries) {template : Template}
    (sound : Sound rendering.loops ⟨[], data :: later, data, []⟩ template) :
    ∃ left : Template,
      (rendering.cycle data template.print).outcome = .ok left.print ∧
      Leaves rendering.loops ⟨[], data :: later, data, []⟩ ⟨[], later, data, []⟩ template left ∧
      AllTags (Unfilled rendering.loops data) left := by
  obtain ⟨expanded, rewrites, leaves⟩ := expands passes (Loop.room template.print) template
    (data :: later) data [] plain (loopDepth_le_room template) sound
  have overLoops : (rendering.loops.pass template.print data).outcome = .ok expanded.print := by
    rw [Loop.Setting.pass, Loop.Setting.outcome_passWithin]
    exact rewrites.whole
  have advanced := leaves.advance
  obtain ⟨peeled, peels⟩ := exists_peels (calm_of_sound _ advanced.loopFree advanced.sound)
  have kept : Leaves rendering.loops ⟨[], data :: later, data, []⟩ ⟨[], later, data, []⟩
      template peeled := by
    refine ⟨?_, ?_, peels.sound advanced.sound⟩
    · have shallower := peels.loopDepth_le
      rw [advanced.loopFree] at shallower
      exact Nat.le_zero.mp shallower
    · rw [peels.result_eq [] later data []]
      exact advanced.result_eq
  have overTags := outcome_pass_print rendering.loops.interpolation plain peeled
  refine ⟨peeled.fill rendering.loops.interpolation.preserveUndefined data, ?_, kept.fill,
    allTags_fill rendering.loops data peeled⟩
  rw [Rendering.cycle, Logged.outcome_bind, overLoops]
  show (Logged.lift (Condition.pass rendering.loops.literalFallback data expanded.print) >>=
    fun text => rendering.loops.interpolation.pass data text).outcome = _
  rw [Logged.outcome_bind, Logged.outcome_lift, peels.conditionPass]
  exact overTags

theorem exists_rootCycles (passes : 0 < rendering.loops.passes) (plain : data.IsPlain)
    (count : Nat) {template : Template}
    (sound : Sound rendering.loops (Standing.root (count + 1) data) template) :
    ∃ left : Template,
      repeated (fun text => (rendering.cycle data text).outcome) (count + 1) template.print =
        .ok left.print ∧
      Leaves rendering.loops (Standing.root (count + 1) data) ⟨[], [], data, []⟩ template left ∧
      AllTags (Unfilled rendering.loops data) left := by
  induction count generalizing template with
  | zero =>
      obtain ⟨left, once, leaves, unfilled⟩ := exists_rootCycle passes plain [] sound
      refine ⟨left, ?_, leaves, unfilled⟩
      rw [repeated, once]
      rfl
  | succ count ih =>
      obtain ⟨first, once, leaves, _⟩ :=
        exists_rootCycle passes plain (List.replicate (count + 1) data) sound
      obtain ⟨left, again, rest, unfilled⟩ := ih leaves.sound
      refine ⟨left, ?_, ⟨rest.loopFree, rest.result_eq.trans leaves.result_eq, rest.sound⟩,
        unfilled⟩
      rw [repeated, once]
      exact again

/-- Where no pass is left, a template without loops stays as it is written. -/
theorem result_eq_print {setting : Loop.Setting} {template : Template}
    (loopFree : loopDepth template = 0) (unfilled : AllTags (Unfilled setting data) template) :
    result setting ⟨[], [], data, []⟩ template = template.print := by
  induction template with
  | done => rfl
  | text content next ih => rw [result, print, ih loopFree unfilled]
  | tag path next ih =>
      obtain ⟨⟨preserve, undefined⟩, rest⟩ := unfilled
      rw [result, print, ih loopFree rest, shownTag, undefined, preserve]
      rfl
  | guarded header body next bodyIH nextIH =>
      rw [loopDepth, Nat.max_eq_zero_iff] at loopFree
      rw [result, print, nextIH loopFree.2 unfilled.2]
      simp only [Standing.next?, bodyIH loopFree.1 unfilled.1]
  | either header body alternative next bodyIH alternativeIH nextIH =>
      rw [loopDepth, Nat.max_eq_zero_iff, Nat.max_eq_zero_iff] at loopFree
      rw [result, print, nextIH loopFree.2.2 unfilled.2.2]
      simp only [Standing.next?, bodyIH loopFree.1 unfilled.1,
        alternativeIH loopFree.2.1 unfilled.2.1]
  | loop header body next _ _ =>
      rw [loopDepth] at loopFree
      omega

end Template

namespace Engine

/-- An engine without hooks, with counts of passes as they are checked when it
is configured. -/
structure Ready (engine : Engine) : Prop where
  noHooks : engine.hooks = none
  passes : 0 < engine.config.maxPasses
  loopPasses : 0 < engine.config.loopMaxPasses

/-- The engine that is told nothing, without hooks. -/
def standard : Engine :=
  ⟨Config.default, [], [], Filter.builtin, Helper.builtin, none⟩

theorem standard_ready : standard.Ready :=
  ⟨rfl, by decide, by decide⟩

variable {engine : Engine} (options : Options)

/-- Whether a template is checked first makes no difference but to the log. -/
theorem outcome_renderText_eq_process (engine : Engine) (options : Options) (data : Entries)
    (template : Text) :
    (engine.renderText options data template).outcome =
      (engine.process options data template).outcome := by
  rw [renderText]
  cases options.validateSyntax with
  | false => rfl
  | true =>
      show (reportProblems "<string>".toList template >>=
        fun _ => engine.process options data template).outcome = _
      rw [Logged.outcome_bind, reportProblems]
      cases Check.messages template <;> rfl

theorem outcome_renderText (noHooks : engine.hooks = none) (data : Entries) (template : Text) :
    (engine.renderText options data template).outcome =
      repeated (fun text => ((engine.rendering options).cycle data text).outcome)
        engine.config.maxPasses template := by
  have hooks : (engine.rendering options).hooks = none := noHooks
  rw [outcome_renderText_eq_process, Engine.process, Rendering.process, hooks]
  exact (engine.rendering options).outcome_cycles data template

/-- A template renders to what it comes to, if every pass can decide the
conditions that it reaches. -/
theorem outcome_renderText_print (ready : engine.Ready) {data : Entries} (plain : data.IsPlain)
    {template : Template}
    (sound : template.Sound (engine.rendering options).loops
      (.root engine.config.maxPasses data)) :
    (engine.renderText options data template.print).outcome =
      .ok (template.result (engine.rendering options).loops
        (.root engine.config.maxPasses data)) := by
  obtain ⟨count, counted⟩ : ∃ count, engine.config.maxPasses = count + 1 :=
    ⟨engine.config.maxPasses - 1, by have := ready.passes; omega⟩
  have loopPasses : 0 < (engine.rendering options).loops.passes := ready.loopPasses
  rw [counted] at sound
  obtain ⟨left, cycles, leaves, unfilled⟩ :=
    Template.exists_rootCycles loopPasses plain count sound
  rw [outcome_renderText options ready.noHooks, counted, cycles, ← leaves.result_eq,
    Template.result_eq_print leaves.loopFree unfilled]

end Engine

end Stencil
