import Stencil.Proofs.Template.Extended
import Stencil.Proofs.Template.SideBySide

/-!
# Data that a template does not mention

A value under a name that stands nowhere in a template is looked up by nothing,
and so it does not matter to what a template renders to.  But every iteration of
a loop takes the text of each value of its context that is no mapping, whether
its name stands in the body or not.  So a value without a text makes a loop fail
that does not mention it, and that is all it can do.
-/

namespace Stencil

/-- The names of a loop whose header gives none. -/
def Loop.usualNames : List Text := ["index".toList, "item".toList]

/-- Whether the inside of a tag does not mention a name; it is no beginning of a
loop unless there may be loops. -/
structure Tag.Unaware (name : Text) (loops : Prop) (interior : Text) : Prop where
  unmentioned : ¬ name <:+: interior
  loops : ∀ header, foreachMark? interior = some (.opens header) → loops

/-- Contexts that differ in one name: only one of them has it, or a loop without
names of its own has bound it in both. -/
structure Entries.DifferIn (name : Text) (value : Value) (context other : Entries) : Prop where
  free : context.IsBraceFree
  wider : Extends name value context other ∨ name ∈ Loop.usualNames ∧
    ∃ common bound, Extends name bound common context ∧ Extends name bound common other

/-- The terms on which renders with and without a value are compared.  In a loop
the value may have no text, and if a loop binds its name, two values without a
text may come in another order. -/
def Terms.unmentioned (name : Text) (value : Value) (loops : Prop) : Terms where
  fine := Text.Made (Tag.Unaware name loops)
  agree := Entries.DifferIn name value
  alike fault other := fault = other ∨ loops ∧ name ∈ Loop.usualNames
  spoils fault := loops ∧ value.LacksText fault

section Passes

variable {name : Text} {value : Value} {loops : Prop} {context other : Entries}

namespace Entries.DifferIn

variable (differ : DifferIn name value context other)

include differ

theorem lookup_eq {key : Text} (distinct : key ≠ name) : lookup key context = lookup key other := by
  rcases differ.wider with wider | ⟨_, common, bound, left, right⟩
  · exact (wider.lookup_eq distinct).symm
  · rw [left.lookup_eq distinct, right.lookup_eq distinct]

theorem agreeWithin {text : Text} (unmentioned : ¬ name <:+: text) :
    AgreeWithin text context other := by
  apply agreeWithin_of_lookup
  intro key inside
  apply differ.lookup_eq
  rintro rfl
  exact unmentioned inside

theorem set {key : Text} (keyFree : Text.isBraceFree key = true)
    (usual : key = name → name ∈ Loop.usualNames) {content : Value}
    (clean : content.isBraceFree = true) :
    DifferIn name value (context.set key content) (other.set key content) := by
  refine ⟨isBraceFree_set differ.free keyFree clean, ?_⟩
  by_cases same : key = name
  · -- Now both contexts have the name, at places that may differ.
    subst same
    refine .inr ⟨usual rfl, ?_⟩
    rcases differ.wider with wider | ⟨_, common, bound, left, right⟩
    · exact ⟨context, content, .set_absent wider.absent content, wider.set_self content⟩
    · exact ⟨common, content, left.set_self content, right.set_self content⟩
  · rcases differ.wider with wider | ⟨usualName, common, bound, left, right⟩
    · exact .inl (wider.set_of_ne same content)
    · exact .inr ⟨usualName, common.set key content, bound, left.set_of_ne same content,
        right.set_of_ne same content⟩

/-- The same names are bound in both contexts but for the one in which they
differ, or binding fails. -/
theorem follows_nameBindings (inLoop : loops) :
    (Terms.unmentioned name value loops).Follows
      (fun names others => (∀ binding ∈ names,
          Text.isBraceFree binding.1 = true ∧ Text.isInert binding.2 = true) ∧
        Loop.besides name others = Loop.besides name names)
      (Loop.nameBindings context) (Loop.nameBindings other) := by
  have clear := Loop.yields_nameBindings_of (fun name => Text.isBraceFree name = true)
    differ.free fun entry _ free _ => entry.1.yields_name.imp fun _ clean => clean free
  rcases differ.wider with wider | ⟨usual, common, bound, left, right⟩
  · rcases Loop.nameBindings_of_extends wider with
      ⟨names, others, small, large, same, _⟩ | ⟨fault, failed, small | lacks⟩
    · rw [small] at clear
      rw [small, large]
      exact .ok ⟨clear.of_ok, same⟩
    · rw [small, failed]
      exact .error (.inl rfl)
    · rw [failed]
      exact .spoilt ⟨inLoop, lacks⟩
  · -- Both extend the same entries by the same value, so that both bind or both fail.
    rcases Loop.nameBindings_of_extends left with
      ⟨base, names, least, small, same, shown⟩ | ⟨fault, failed, why⟩
    · rcases Loop.nameBindings_of_extends right with
        ⟨baseToo, others, leastToo, large, sameToo, _⟩ | ⟨fault, _, missing | lacks⟩
      · rw [least] at leastToo
        cases leastToo
        rw [small] at clear
        rw [small, large]
        exact .ok ⟨clear.of_ok, sameToo.trans same.symm⟩
      · rw [least] at missing
        exact absurd missing (by simp)
      · exact absurd lacks (shown fault)
    · rcases Loop.nameBindings_of_extends right with
        ⟨base, others, least, _, _, shown⟩ | ⟨second, failedToo, _⟩
      · rcases why with missing | lacks
        · rw [least] at missing
          exact absurd missing (by simp)
        · exact absurd lacks (shown fault)
      · rw [failed, failedToo]
        exact .error (.inr ⟨inLoop, usual⟩)

end Entries.DifferIn

open Text (Made)

theorem Block.IsMade.header_unaware {block : Block}
    (made : block.IsMade BlockTags.ofForeach (Tag.Unaware name loops)) :
    Text.isBraceFree block.header = true ∧ ¬ name <:+: block.header ∧ loops := by
  obtain ⟨interior, free, unaware, marked⟩ := made.header
  have inside := Tag.infix_of_foreachMark? marked
  exact ⟨Text.isBraceFree_of_subset inside.subset free,
    fun mentioned => unaware.unmentioned (mentioned.trans inside),
    unaware.loops block.header marked⟩

theorem Loop.Spec.names_ofText {header : Text} (free : Text.isBraceFree header = true)
    (unmentioned : ¬ name <:+: header) :
    ∀ bound ∈ [(ofText header).keyName, (ofText header).valueName],
      Text.isBraceFree bound = true ∧ (bound = name → name ∈ usualNames) := by
  have inside : ∀ bound, bound <:+: header →
      Text.isBraceFree bound = true ∧ (bound = name → name ∈ usualNames) := by
    intro bound within
    refine ⟨Text.isBraceFree_of_subset within.subset free, ?_⟩
    rintro rfl
    exact absurd within unmentioned
  have usual : ∀ bound ∈ usualNames,
      Text.isBraceFree bound = true ∧ (bound = name → name ∈ usualNames) := by
    intro bound member
    have spelled : ∀ bound ∈ usualNames, Text.isBraceFree bound = true := by decide
    exact ⟨spelled bound member, fun same => same ▸ member⟩
  obtain ⟨_, ⟨key, value⟩ | ⟨key, value⟩⟩ := infix_ofText header
  · simp only [List.forall_mem_cons]
    exact ⟨inside _ key, inside _ value, by simp⟩
  · rw [key, value]
    exact usual

theorem Entries.DifferIn.scope (differ : context.DifferIn name value other) {block : Block}
    (made : block.IsMade BlockTags.ofForeach (Tag.Unaware name loops)) {entries : Entries}
    (found : Loop.targetEntries? (resolve (Loop.Spec.ofText block.header).target context) =
      some entries)
    {entry : Value × Value} (among : entry ∈ entries) :
    (Loop.scope (Loop.Spec.ofText block.header) context entry.1 entry.2).DifferIn name value
      (Loop.scope (Loop.Spec.ofText block.header) other entry.1 entry.2) := by
  obtain ⟨free, unaware, _⟩ := made.header_unaware
  have names := Loop.Spec.names_ofText free unaware
  obtain ⟨keyFree, usualKey⟩ := names _ List.mem_cons_self
  obtain ⟨valueFree, usualValue⟩ := names _ (List.mem_cons_of_mem _ List.mem_cons_self)
  obtain ⟨cleanKey, cleanValue⟩ :=
    isBraceFree_targetEntries (isBraceFree_resolve differ.free _) found entry among
  exact (differ.set keyFree usualKey cleanKey).set valueFree usualValue cleanValue

namespace Terms

theorem unmentioned_alike_self (fault : Fault) :
    (unmentioned name value loops).alike fault fault := .inl rfl

theorem unmentioned_append (first last : Text) (here : (unmentioned name value loops).fine first)
    (there : (unmentioned name value loops).fine last) :
    (unmentioned name value loops).fine (first ++ last) :=
  Made.append here there

theorem follows_conditions (literalFallback : Bool) (differ : context.DifferIn name value other)
    {text : Text} (made : Made (Tag.Unaware name loops) text) :
    (unmentioned name value loops).Follows (unmentioned name value loops).Same
      (Condition.pass literalFallback context text)
      (Condition.pass literalFallback other text) := by
  have layout := Layout.isMade_ofText BlockTags.ofIf made
  apply Follows.replace unmentioned_append layout.gaps layout.tail
  intro part member
  have block := layout.blocks part member
  obtain ⟨interior, _, unaware, marked⟩ := block.header
  have agree := differ.agreeWithin fun mentioned =>
    unaware.unmentioned (mentioned.trans (Tag.infix_of_ifMark? marked))
  rw [Condition.branch_congr literalFallback agree]
  apply Follows.refl unmentioned_alike_self
  intro text chosen
  refine ⟨rfl, ?_⟩
  obtain ⟨holds, _, taken⟩ := exists_of_bind_eq_ok chosen
  cases holds with
  | true =>
      cases taken
      exact block.body
  | false =>
      cases taken
      exact block.alternative

theorem follows_expressions {interpolation : Interpolation}
    (filters : interpolation.filters.MakesNoBraces)
    (helpers : interpolation.helpers.MakesNoBraces) (differ : context.DifferIn name value other)
    {text : Text} (made : Made (Tag.Unaware name loops) text) :
    (unmentioned name value loops).Follows (unmentioned name value loops).Same
      (interpolation.pass context text).outcome (interpolation.pass other text).outcome := by
  induction made with
  | nil =>
      rw [Interpolation.Fills.nil.whole, Interpolation.Fills.nil.whole]
      exact .ok ⟨rfl, .nil⟩
  | inert content _ ih =>
      rw [Interpolation.Fills.inert content, Interpolation.Fills.inert content]
      exact Follows.together unmentioned_append (.ok ⟨rfl, .of_inert content⟩) ih
  | @tag interior _ free nonempty unaware _ ih =>
      rw [Interpolation.Fills.tagged interpolation context free nonempty,
        Interpolation.Fills.tagged interpolation other free nonempty]
      refine Follows.together unmentioned_append ?_ ih
      have inside := Tag.infix_expression interior
      have agree := differ.agreeWithin fun mentioned =>
        unaware.unmentioned (mentioned.trans inside)
      rw [← Interpolation.fill_congr interpolation _ agree]
      apply Follows.refl unmentioned_alike_self
      intro filled ended
      refine ⟨rfl, ?_⟩
      rcases interpolation.raw_or_isInert_of_fill filters helpers differ.free _
        (Text.isBraceFree_of_subset inside.subset free) ended with rfl | inert
      · exact .of_tag free nonempty unaware
      · exact .of_inert inert

theorem follows_started (nameFree : Text.isBraceFree name = true) {spec : Loop.Spec}
    (valueFree : Text.isBraceFree spec.valueName = true) {entry : Value × Value}
    (clean : entry.2.isBraceFree = true) (inLoop : loops)
    (differ : (Loop.scope spec context entry.1 entry.2).DifferIn name value
      (Loop.scope spec other entry.1 entry.2))
    {block : Block} (made : Made (Tag.Unaware name loops) block.body) :
    (unmentioned name value loops).Follows (unmentioned name value loops).Same
      (Loop.started block spec context entry) (Loop.started block spec other entry) := by
  have named : ∀ part, Text.isBraceFree part = true →
      Text.isBraceFree (spec.valueName ++ '.' :: part) = true := by
    intro part free
    have dot : Tag.isInner '.' = true := by decide
    simp [valueFree, free, dot]
  have clear := Loop.yields_partBindings_of (fun name => Text.isBraceFree name = true) named clean
  have apart : ∀ interior, Tag.Unaware name loops interior → ¬ Tag.Pads name interior := by
    rintro interior unaware ⟨before, after, whole, _⟩
    exact unaware.unmentioned ⟨before, after, whole.symm⟩
  rw [Loop.started, Loop.started]
  have parts : (unmentioned name value loops).Follows
      (fun parts others => parts = others ∧ ∀ binding ∈ parts,
        Text.isBraceFree binding.1 = true ∧ Text.isInert binding.2 = true)
      (Loop.partBindings spec.valueName entry.2) (Loop.partBindings spec.valueName entry.2) := by
    apply Follows.refl unmentioned_alike_self
    intro parts found
    rw [found] at clear
    exact ⟨rfl, clear.of_ok⟩
  apply parts.bind
  rintro parts _ ⟨rfl, clearParts⟩
  apply (differ.follows_nameBindings inLoop).bind
  rintro names others ⟨clearNames, same⟩
  have clearAll := List.forall_mem_append.mpr ⟨clearParts, clearNames⟩
  have sameBesides : Loop.besides name (parts ++ others) = Loop.besides name (parts ++ names) := by
    rw [Loop.besides_append, Loop.besides_append, same]
  exact .ok ⟨Loop.bindOutside_congr_of_made nameFree apart clearAll sameBesides made,
    Loop.made_bindOutside clearAll made⟩

/-- With and without a value that a text does not mention, passes over it go on
alike. -/
theorem unmentioned_parallel (nameFree : Text.isBraceFree name = true) {setting : Loop.Setting}
    (filters : setting.interpolation.filters.MakesNoBraces)
    (helpers : setting.interpolation.helpers.MakesNoBraces) :
    Loop.Setting.Parallel (unmentioned name value loops) setting setting where
  passes := rfl
  alike := unmentioned_alike_self
  empty := Made.nil
  append := unmentioned_append
  gaps made := (Layout.isMade_ofText BlockTags.ofForeach made).gaps
  tail made := (Layout.isMade_ofText BlockTags.ofForeach made).tail
  conditions differ made := follows_conditions setting.literalFallback differ made
  expressions differ made := follows_expressions filters helpers differ made
  targets := by
    intro context other text differ made part member
    obtain ⟨_, unaware, _⟩ :=
      ((Layout.isMade_ofText BlockTags.ofForeach made).blocks part member).header_unaware
    exact differ.agreeWithin unaware _ (Loop.Spec.infix_ofText part.2.header).1
  scopes := by
    intro context other text differ made part member entries found entry among
    exact differ.scope ((Layout.isMade_ofText BlockTags.ofForeach made).blocks part member)
      found among
  starts := by
    intro context other text differ made part member entries found entry among
    have block := (Layout.isMade_ofText BlockTags.ofForeach made).blocks part member
    obtain ⟨free, unaware, inLoop⟩ := block.header_unaware
    have names := Loop.Spec.names_ofText free unaware
    obtain ⟨_, clean⟩ := Entries.isBraceFree_targetEntries
      (Entries.isBraceFree_resolve differ.free _) found entry among
    exact follows_started nameFree (names _ (by simp)).1 clean inLoop
      (differ.scope block found among) block.body

/-- A render that follows another one on these terms ends as that one does, or
fails in a loop: at the value, or where the other one fails as well. -/
theorem Follows.cases_unmentioned {outcome extended : Except Fault Text}
    (follows : (unmentioned name value loops).Follows (unmentioned name value loops).Same outcome
      extended) :
    extended = outcome ∨
      loops ∧ ((∃ fault, value.LacksText fault ∧ extended = .error fault) ∨
        name ∈ Loop.usualNames ∧ (∃ fault, outcome = .error fault) ∧
          ∃ fault, extended = .error fault) := by
  cases follows with
  | ok here =>
      obtain ⟨rfl, _⟩ := here
      exact .inl rfl
  | @error fault second alike =>
      rcases alike with rfl | ⟨inLoop, usual⟩
      · exact .inl rfl
      · exact .inr ⟨inLoop, .inr ⟨usual, ⟨fault, rfl⟩, second, rfl⟩⟩
  | @spoilt _ fault spoils => exact .inr ⟨spoils.1, .inl ⟨fault, spoils.2, rfl⟩⟩

end Terms

end Passes

section Failing

variable {name : Text} {value : Value} {fault : Fault} {data more : Entries}

theorem Loop.exists_error_started (lacks : value.LacksText fault) {context other : Entries}
    {spec : Spec} {entry : Value × Value}
    (wider : Entries.Extends name value (scope spec context entry.1 entry.2)
      (scope spec other entry.1 entry.2)) (block : Block) :
    ∃ fault, started block spec other entry = .error fault := by
  apply exists_error_bind
  intro parts _
  rcases nameBindings_of_extends wider with ⟨_, _, _, _, _, clear⟩ | ⟨second, failed, _⟩
  · exact absurd lacks (clear fault)
  · rw [failed]
    exact ⟨second, rfl⟩

/-- Whether a loop has entries to go through and binds other names than a given
one. -/
structure Block.Iterates (data : Entries) (name : Text) (block : Block) : Prop where
  entries : ∃ entry entries, Loop.targetEntries?
    (Entries.resolve (Loop.Spec.ofText block.header).target data) = some (entry :: entries)
  key : (Loop.Spec.ofText block.header).keyName ≠ name
  value : (Loop.Spec.ofText block.header).valueName ≠ name

/-- A pass fails if a loop that is gone through binds a value without a text. -/
theorem Loop.Setting.exists_error_pass (setting : Loop.Setting) (lacks : value.LacksText fault)
    (wider : data.Extends name value more) {text : Text} {part : Text × Block}
    (member : part ∈ (Layout.ofText Tag.foreachMarks text).parts)
    (unmentioned : ¬ name <:+: part.2.header) (iterates : part.2.Iterates data name) :
    ∃ fault, (setting.pass text more).outcome = .error fault := by
  obtain ⟨⟨entry, entries, found⟩, key, content⟩ := iterates
  have agree := Entries.agreeWithin_of_lookup fun key inside =>
    wider.lookup_eq fun same => unmentioned (same ▸ inside)
  rw [← agree _ (Spec.infix_ofText part.2.header).1] at found
  rw [pass, outcome_passWithin]
  apply Layout.exists_error_replace member
  cases room text with
  | zero => exact ⟨.nestingTooDeep, rfl⟩
  | succ depth =>
      rw [written, expand, found]
      show ∃ fault, (Logged.concat _ (entry :: entries)).outcome = .error fault
      rw [Logged.outcome_concat]
      apply exists_error_joined List.mem_cons_self
      rw [outcome_iteration_eq_started]
      have within := (wider.set_of_ne key entry.1).set_of_ne content entry.2
      obtain ⟨fault, failed⟩ := exists_error_started lacks within part.2
      rw [failed]
      exact ⟨fault, rfl⟩

end Failing

theorem Tag.unaware_of_infix {name template interior : Text}
    (unmentioned : ¬ name <:+: template) (inside : tagged interior <:+: template) :
    Unaware name (foreachOpening <:+: template) interior := by
  constructor
  · intro mentioned
    have within : interior <:+: tagged interior := ⟨opening, closing, rfl⟩
    exact unmentioned (mentioned.trans (within.trans inside))
  · intro header marked
    have whole := eq_append_of_foreachMark? marked
    have within : foreachOpening <:+: tagged interior := ⟨[], header ++ closing, by
      rw [whole]
      simp [tagged, foreachOpening, foreachWord]⟩
    exact within.trans inside

namespace Engine

variable {engine : Engine}

/-- Without hooks, a value under a name that neither the data has nor the
template mentions makes no difference, unless it has no text and there are
loops.  (A loop that binds the name itself can also fail elsewhere than before.)
It does make every loop fail that is gone through. -/
theorem renderText_unmentioned (options : Options) (noHooks : engine.hooks = none)
    (filters : engine.filters.MakesNoBraces) (helpers : engine.helpers.MakesNoBraces)
    {data more : Entries} (clean : data.IsBraceFree) {template : Text}
    (tags : template.bracesAreTags = true) {name : Text} (nameFree : Text.isBraceFree name = true)
    (unmentioned : ¬ name <:+: template) {value : Value} (wider : data.Extends name value more) :
    ((engine.renderText options more template).outcome =
        (engine.renderText options data template).outcome ∨
      Tag.foreachOpening <:+: template ∧
        ((∃ fault, value.LacksText fault ∧
            (engine.renderText options more template).outcome = .error fault) ∨
          name ∈ Loop.usualNames ∧
            (∃ fault, (engine.renderText options data template).outcome = .error fault) ∧
              ∃ fault, (engine.renderText options more template).outcome = .error fault)) ∧
      (0 < engine.config.maxPasses → (∃ fault, value.LacksText fault) →
        ∀ part ∈ (Layout.ofText Tag.foreachMarks template).parts, part.2.Iterates data name →
          ∃ fault, (engine.renderText options more template).outcome = .error fault) := by
  have made : Text.Made (Tag.Unaware name (Tag.foreachOpening <:+: template)) template :=
    Text.made_of_bracesAreTags tags fun interior inside => Tag.unaware_of_infix unmentioned inside
  constructor
  · have differ : Entries.DifferIn name value data more := ⟨clean, .inl wider⟩
    have parallel : Loop.Setting.Parallel
        (Terms.unmentioned name value (Tag.foreachOpening <:+: template))
        (engine.rendering options).loops (engine.rendering options).loops :=
      Terms.unmentioned_parallel nameFree filters helpers
    have follows := Rendering.follows_cycles parallel differ rfl made
    rw [outcome_renderText options noHooks, outcome_renderText options noHooks]
    rw [Rendering.outcome_cycles, Rendering.outcome_cycles] at follows
    exact follows.cases_unmentioned
  · rintro passes ⟨fault, lacks⟩ part member iterates
    obtain ⟨count, counted⟩ : ∃ count, engine.config.maxPasses = count + 1 :=
      ⟨engine.config.maxPasses - 1, by omega⟩
    have block := (Layout.isMade_ofText BlockTags.ofForeach made).blocks part member
    obtain ⟨_, unaware, _⟩ := block.header_unaware
    obtain ⟨second, failed⟩ := (engine.rendering options).loops.exists_error_pass lacks wider
      member unaware iterates
    rw [outcome_renderText options noHooks, counted, repeated, Rendering.outcome_cycle, failed]
    exact ⟨second, rfl⟩

/-- A loop with a body that mentions no name. -/
def tally : Text := "{{foreach:items}}x{{endforeach}}".toList

def tallyData : Entries := [(.text "items".toList, .list 1 [.int 1])]

/-- A list without a text: it holds a mapping with a key that cannot be written. -/
def unwritable : Value := .list 2 [.map 3 false [(.tuple 4 [.int 1], .int 2)]]

/-- The loop renders as before with a text that it does not mention, and fails
with a list that it does not mention. -/
theorem renderText_tally :
    (standard.renderText Options.default tallyData tally).outcome = .ok ['x'] ∧
      (standard.renderText Options.default
        ((.text "unused".toList, .text "w".toList) :: tallyData) tally).outcome = .ok ['x'] ∧
      ∃ fault, (standard.renderText Options.default
        (tallyData ++ [(.text "unused".toList, unwritable)]) tally).outcome = .error fault := by
  have rendered : (standard.renderText Options.default tallyData tally).outcome = .ok ['x'] := by
    decide +kernel
  have clean : tallyData.IsBraceFree := by decide +kernel
  have tags : tally.bracesAreTags = true := by decide +kernel
  have unmentioned : ¬ "unused".toList <:+: tally := by decide +kernel
  have nameFree : Text.isBraceFree "unused".toList = true := by decide +kernel
  have absent : ∀ entry ∈ tallyData, entry.1 ≠ .text "unused".toList := by simp [tallyData]
  have inFront : tallyData.Extends "unused".toList (.text "w".toList)
      ((.text "unused".toList, .text "w".toList) :: tallyData) := .here absent
  have behind : tallyData.Extends "unused".toList unwritable
      (tallyData ++ [(.text "unused".toList, unwritable)]) :=
    .there (absent _ List.mem_cons_self) (.here (by simp))
  refine ⟨rendered, ?_, ?_⟩
  · obtain ⟨same | ⟨_, ⟨fault, ⟨_, noText⟩, _⟩ | ⟨usual, _⟩⟩, _⟩ :=
      renderText_unmentioned Options.default standard_ready.noHooks
        Filter.builtin_keepsBraceFree.makesNoBraces Helper.builtin_keepsBraceFree.makesNoBraces
        clean tags nameFree unmentioned inFront
    · exact same.trans rendered
    · exact absurd noText (by simp [Value.display])
    · exact absurd usual (by decide)
  · obtain ⟨_, fails⟩ := renderText_unmentioned Options.default standard_ready.noHooks
      Filter.builtin_keepsBraceFree.makesNoBraces Helper.builtin_keepsBraceFree.makesNoBraces
      clean tags nameFree unmentioned behind
    have lacks : unwritable.LacksText .keyNotWritable := ⟨rfl, by decide +kernel⟩
    have parts : (Layout.ofText Tag.foreachMarks tally).parts =
        [([], ⟨"{{foreach:items}}".toList, "items".toList, ['x'], none, Tag.endforeachTag⟩)] := by
      decide +kernel
    apply fails (by decide) ⟨_, lacks⟩ _ (parts ▸ List.mem_cons_self)
    exact ⟨⟨_, _, rfl⟩, by decide +kernel, by decide +kernel⟩

end Engine

end Stencil
