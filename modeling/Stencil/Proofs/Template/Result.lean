import Stencil.Proofs.Template.Printed

/-!
# What a template comes to

The passes of a render reach each part of a template in a fixed order.  A part
inside loops is first reached by the passes of the iterations around it, from
the outermost one inwards, then by all passes of its own iteration, and then by
the further passes of the iterations around it, from inside outwards, the
passes over the whole text being the last.  Each pass decides the outermost
`if` block that is left; a tag is filled in by the first pass in whose context
its path stands for something.

The result of a template is defined by this order alone, without any text being
rewritten.  What is proved here is that the single passes keep it.
-/

namespace Stencil

/-- Where a part of a template stands. -/
structure Standing where
  /-- The contexts of the passes that reach the part before the loops in it
  are expanded. -/
  pending : List Entries
  /-- The contexts of the passes that reach it afterwards. -/
  later : List Entries
  context : Entries
  /-- The contexts around its own, from inside outwards. -/
  outer : List Entries

namespace Standing

/-- Where a whole template stands. -/
def root (passes : Nat) (data : Entries) : Standing :=
  ⟨[], List.replicate passes data, data, []⟩

/-- Where the body of a loop stands in the iteration with a context. -/
def enter (standing : Standing) (passes : Nat) (scope : Entries) : Standing where
  pending := standing.pending ++ [scope]
  later := List.replicate (passes - 1) scope ++ standing.later
  context := scope
  outer := standing.context :: standing.outer

/-- The contexts of all passes that reach a part. -/
def queue (standing : Standing) : List Entries :=
  standing.pending ++ standing.later

/-- The context of the next pass, and what is left after it. -/
def next? : Standing → Option (Entries × Standing)
  | ⟨decider :: pending, later, context, outer⟩ =>
      some (decider, ⟨pending, later, context, outer⟩)
  | ⟨[], decider :: later, context, outer⟩ => some (decider, ⟨[], later, context, outer⟩)
  | ⟨[], [], _, _⟩ => none

theorem next?_eq_none {standing : Standing} (empty : standing.queue = []) :
    standing.next? = none := by
  obtain ⟨pending, later, context, outer⟩ := standing
  obtain ⟨noPending, noLater⟩ := List.append_eq_nil_iff.mp empty
  cases noPending
  cases noLater
  rfl

theorem next?_eq_some {standing : Standing} {decider : Entries} {rest : List Entries}
    (full : standing.queue = decider :: rest) :
    ∃ after, standing.next? = some (decider, after) ∧ after.queue = rest ∧
      after.context = standing.context ∧ after.outer = standing.outer := by
  obtain ⟨pending, later, context, outer⟩ := standing
  cases pending with
  | nil =>
      cases full
      exact ⟨_, rfl, rfl, rfl, rfl⟩
  | cons first pending =>
      cases full
      exact ⟨_, rfl, rfl, rfl, rfl⟩

theorem context_of_next? {standing after : Standing} {decider : Entries}
    (next : standing.next? = some (decider, after)) :
    after.context = standing.context ∧ after.outer = standing.outer := by
  obtain ⟨pending, later, context, outer⟩ := standing
  cases pending with
  | nil =>
      cases later with
      | nil => exact absurd next (by simp [next?])
      | cons first later =>
          cases next
          exact ⟨rfl, rfl⟩
  | cons first pending =>
      cases next
      exact ⟨rfl, rfl⟩

theorem pending_of_next? {standing after : Standing} {decider : Entries}
    (next : standing.next? = some (decider, after)) (started : standing.pending = []) :
    after.pending = [] := by
  obtain ⟨pending, later, context, outer⟩ := standing
  cases started
  cases later with
  | nil => exact absurd next (by simp [next?])
  | cons first later =>
      cases next
      rfl

end Standing

namespace LoopHeader

/-- The entries that a loop goes through in a context; none if its target has
none. -/
def entries (header : LoopHeader) (context : Entries) : Entries :=
  (Loop.targetEntries? (Entries.resolve header.spec.target context)).getD []

def scope (header : LoopHeader) (context : Entries) (entry : Value × Value) : Entries :=
  Loop.scope header.spec context entry.1 entry.2

theorem exists_words (header : LoopHeader) : ∃ key value : Word,
    header.spec.keyName = key.text ∧ header.spec.valueName = value.text := by
  obtain ⟨target, names⟩ := header
  cases names with
  | none =>
      refine ⟨⟨"index".toList, ?_⟩, ⟨"item".toList, ?_⟩, rfl, rfl⟩
      · exact ⟨by decide, by decide +kernel, by decide⟩
      · exact ⟨by decide, by decide +kernel, by decide⟩
  | some names => exact ⟨names.1, names.2, rfl, rfl⟩

theorem isPlain_of_mem_entries (header : LoopHeader) {context : Entries}
    (plain : context.IsPlain) {entry : Value × Value} (member : entry ∈ header.entries context) :
    entry.1.isPlain = true ∧ entry.2.isPlain = true := by
  unfold entries at member
  cases has : Loop.targetEntries? (Entries.resolve header.spec.target context) with
  | none =>
      rw [has] at member
      exact absurd member (by simp)
  | some found =>
      rw [has] at member
      rcases Entries.isPlain_resolve plain header.spec.target with undefined | plainTarget
      · rw [undefined] at has
        exact absurd has (by simp [Loop.targetEntries?, Value.items?])
      · exact Value.isPlain_targetEntries plainTarget has entry member

theorem isPlain_scope (header : LoopHeader) {context : Entries} (plain : context.IsPlain)
    {entry : Value × Value} (member : entry ∈ header.entries context) :
    (header.scope context entry).IsPlain := by
  obtain ⟨key, value, keyName, valueName⟩ := header.exists_words
  obtain ⟨plainKey, plainValue⟩ := header.isPlain_of_mem_entries plain member
  rw [scope, Loop.scope, keyName, valueName]
  exact Entries.isPlain_set (Entries.isPlain_set plain key plainKey) value plainValue

end LoopHeader

namespace IfHeader

/-- Whether a condition can be decided in a context. -/
def Decided (header : IfHeader) (literalFallback : Bool) (context : Entries) : Prop :=
  ∃ selected, header.condition.holds literalFallback context = .ok selected

/-- Whether a condition selects the first branch; a condition that fails does
not. -/
def selects (header : IfHeader) (literalFallback : Bool) (context : Entries) : Bool :=
  match header.condition.holds literalFallback context with
  | .ok selected => selected
  | .error _ => false

theorem selects_eq {header : IfHeader} {literalFallback : Bool} {context : Entries}
    {selected : Bool} (holds : header.condition.holds literalFallback context = .ok selected) :
    header.selects literalFallback context = selected := by
  rw [selects, holds]

end IfHeader

namespace Template

variable (setting : Loop.Setting)

/-- The text of a tag: that of its path in the first context in which the path
stands for something.  Other contexts than its own are asked only if undefined
names are preserved. -/
def shownTag (standing : Standing) (path : TagPath) : Text :=
  match standing.context.shown? path.text with
  | some content => content.text
  | none =>
      if setting.interpolation.preserveUndefined then
        match standing.outer.findSome? (·.shown? path.text) with
        | some content => content.text
        | none => Tag.tagged path.text
      else []

/-- What a template comes to where it stands. -/
def result (standing : Standing) : Template → Text
  | done => []
  | text content next => content.text ++ result standing next
  | tag path next => shownTag setting standing path ++ result standing next
  | guarded header body next =>
      (match standing.next? with
        | some (decider, after) =>
            if header.selects setting.literalFallback decider then result after body else []
        | none =>
            Tag.tagged header.interior ++ result standing body ++ Tag.tagged Tag.endifWord)
        ++ result standing next
  | either header body alternative next =>
      (match standing.next? with
        | some (decider, after) =>
            if header.selects setting.literalFallback decider then result after body
            else result after alternative
        | none =>
            Tag.tagged header.interior ++ result standing body ++ Tag.tagged Tag.elseWord
              ++ result standing alternative ++ Tag.tagged Tag.endifWord)
        ++ result standing next
  | loop header body next =>
      ((header.entries standing.context).flatMap fun entry =>
          result (standing.enter setting.passes (header.scope standing.context entry)) body)
        ++ result standing next

/-- Whether the given passes can decide the blocks that they reach before loops
are expanded. -/
def Calm (literalFallback : Bool) : List Entries → Template → Prop
  | _, done => True
  | pending, text _ next | pending, tag _ next => Calm literalFallback pending next
  | pending, guarded header body next =>
      (match pending with
        | [] => True
        | decider :: pending =>
            header.Decided literalFallback decider ∧ Calm literalFallback pending body)
        ∧ Calm literalFallback pending next
  | pending, either header body alternative next =>
      (match pending with
        | [] => True
        | decider :: pending =>
            header.Decided literalFallback decider ∧ Calm literalFallback pending body
              ∧ Calm literalFallback pending alternative)
        ∧ Calm literalFallback pending next
  | pending, loop _ body next =>
      Calm literalFallback pending body ∧ Calm literalFallback pending next

/-- Whether every pass can decide the blocks that it reaches, in each branch
and in each iteration. -/
def Sound (standing : Standing) : Template → Prop
  | done => True
  | text _ next | tag _ next => Sound standing next
  | guarded header body next =>
      (match standing.next? with
        | some (decider, after) =>
            header.Decided setting.literalFallback decider ∧ Sound after body
        | none => Sound standing body)
        ∧ Sound standing next
  | either header body alternative next =>
      (match standing.next? with
        | some (decider, after) =>
            header.Decided setting.literalFallback decider ∧ Sound after body
              ∧ Sound after alternative
        | none => Sound standing body ∧ Sound standing alternative)
        ∧ Sound standing next
  | loop header body next =>
      (∀ entry ∈ header.entries standing.context,
        Calm setting.literalFallback
            (standing.enter setting.passes (header.scope standing.context entry)).pending body ∧
          Sound (standing.enter setting.passes (header.scope standing.context entry)) body)
        ∧ Sound standing next

def loopDepth : Template → Nat
  | done => 0
  | text _ next | tag _ next => loopDepth next
  | guarded _ body next => max (loopDepth body) (loopDepth next)
  | either _ body alternative next =>
      max (loopDepth body) (max (loopDepth alternative) (loopDepth next))
  | loop _ body next => max (loopDepth body + 1) (loopDepth next)

/-- Whether all tags of a template have a property. -/
def AllTags (property : TagPath → Prop) : Template → Prop
  | done => True
  | text _ next => AllTags property next
  | tag path next => property path ∧ AllTags property next
  | guarded _ body next => AllTags property body ∧ AllTags property next
  | either _ body alternative next =>
      AllTags property body ∧ AllTags property alternative ∧ AllTags property next
  | loop _ body next => AllTags property body ∧ AllTags property next

theorem result_append (standing : Standing) (first later : Template) :
    result setting standing (first ++ later) =
      result setting standing first ++ result setting standing later := by
  induction first with
  | done => rfl
  | text content next ih => simp [result, ih]
  | tag path next ih => simp [result, ih]
  | guarded header body next _ ih => simp [result, ih]
  | either header body alternative next _ _ ih => simp [result, ih]
  | loop header body next _ ih => simp [result, ih]

theorem calm_append (literalFallback : Bool) (pending : List Entries) {first later : Template} :
    Calm literalFallback pending (first ++ later) ↔
      Calm literalFallback pending first ∧ Calm literalFallback pending later := by
  induction first with
  | done => simp [Calm]
  | text content next ih => simpa [Calm] using ih
  | tag path next ih => simpa [Calm] using ih
  | guarded header body next _ ih => simp [Calm, ih, and_assoc]
  | either header body alternative next _ _ ih => simp [Calm, ih, and_assoc]
  | loop header body next _ ih => simp [Calm, ih, and_assoc]

theorem sound_append (standing : Standing) {first later : Template} :
    Sound setting standing (first ++ later) ↔
      Sound setting standing first ∧ Sound setting standing later := by
  induction first with
  | done => simp [Sound]
  | text content next ih => simpa [Sound] using ih
  | tag path next ih => simpa [Sound] using ih
  | guarded header body next _ ih => simp [Sound, ih, and_assoc]
  | either header body alternative next _ _ ih => simp [Sound, ih, and_assoc]
  | loop header body next _ ih => simp [Sound, ih, and_assoc]

theorem loopDepth_append (first later : Template) :
    loopDepth (first ++ later) = max (loopDepth first) (loopDepth later) := by
  induction first with
  | done => simp [loopDepth]
  | text content next ih => simpa [loopDepth] using ih
  | tag path next ih => simpa [loopDepth] using ih
  | guarded header body next _ ih => simp [loopDepth, ih, Nat.max_assoc]
  | either header body alternative next _ _ ih => simp [loopDepth, ih, Nat.max_assoc]
  | loop header body next _ ih => simp [loopDepth, ih, Nat.max_assoc]

theorem allTags_of_forall {property : TagPath → Prop} (all : ∀ path, property path)
    (template : Template) : AllTags property template := by
  induction template with
  | done => trivial
  | text content next ih => exact ih
  | tag path next ih => exact ⟨all path, ih⟩
  | guarded header body next bodyIH nextIH => exact ⟨bodyIH, nextIH⟩
  | either header body alternative next bodyIH alternativeIH nextIH =>
      exact ⟨bodyIH, alternativeIH, nextIH⟩
  | loop header body next bodyIH nextIH => exact ⟨bodyIH, nextIH⟩

theorem AllTags.imp {first second : TagPath → Prop} (implies : ∀ path, first path → second path)
    {template : Template} (all : AllTags first template) : AllTags second template := by
  induction template with
  | done => trivial
  | text content next ih => exact ih all
  | tag path next ih => exact ⟨implies path all.1, ih all.2⟩
  | guarded header body next bodyIH nextIH => exact ⟨bodyIH all.1, nextIH all.2⟩
  | either header body alternative next bodyIH alternativeIH nextIH =>
      exact ⟨bodyIH all.1, alternativeIH all.2.1, nextIH all.2.2⟩
  | loop header body next bodyIH nextIH => exact ⟨bodyIH all.1, nextIH all.2⟩

section Peels

variable {setting} {decider : Entries} {template peeled : Template}

theorem exists_peels {literalFallback : Bool} {pending : List Entries}
    (calm : Calm literalFallback (decider :: pending) template) :
    ∃ peeled, Peels literalFallback decider template peeled := by
  induction template with
  | done => exact ⟨done, .done⟩
  | text content next ih =>
      obtain ⟨later, rest⟩ := ih calm
      exact ⟨text content later, .text content rest⟩
  | tag path next ih =>
      obtain ⟨later, rest⟩ := ih calm
      exact ⟨tag path later, .tag path rest⟩
  | guarded header body next _ ih =>
      obtain ⟨⟨⟨selected, holds⟩, _⟩, calmNext⟩ := calm
      obtain ⟨later, rest⟩ := ih calmNext
      exact ⟨_, .guarded holds rest⟩
  | either header body alternative next _ _ ih =>
      obtain ⟨⟨⟨selected, holds⟩, _⟩, calmNext⟩ := calm
      obtain ⟨later, rest⟩ := ih calmNext
      exact ⟨_, .either holds rest⟩
  | loop header body next bodyIH nextIH =>
      obtain ⟨inner, inside⟩ := bodyIH calm.1
      obtain ⟨later, rest⟩ := nextIH calm.2
      exact ⟨loop header inner later, .loop inside rest⟩

/-- A pass over conditions keeps the result, if it is the next one due. -/
theorem Peels.result_eq (peels : Peels setting.literalFallback decider template peeled)
    (pending later : List Entries) (context : Entries) (outer : List Entries) :
    result setting ⟨pending, later, context, outer⟩ peeled =
      result setting ⟨decider :: pending, later, context, outer⟩ template := by
  induction peels generalizing pending later context outer with
  | done => rfl
  | text content _ ih => rw [result, result, ih]
  | tag path _ ih =>
      rw [result, result, ih]
      rfl
  | @guarded header body next rest selected holds _ ih =>
      rw [result_append, ih, result]
      simp only [Standing.next?, IfHeader.selects_eq holds]
      cases selected <;> rfl
  | @either header body alternative next rest selected holds _ ih =>
      rw [result_append, ih, result]
      simp only [Standing.next?, IfHeader.selects_eq holds]
      cases selected <;> rfl
  | loop _ _ insideIH restIH =>
      rw [result, result, restIH]
      congr 1
      congr 1
      funext entry
      exact insideIH _ _ _ _

theorem Peels.calm {literalFallback : Bool} {pending : List Entries}
    (peels : Peels literalFallback decider template peeled)
    (calm : Calm literalFallback (decider :: pending) template) :
    Calm literalFallback pending peeled := by
  induction peels with
  | done => trivial
  | text content _ ih => exact ih calm
  | tag path _ ih => exact ih calm
  | @guarded header body next rest selected holds _ ih =>
      obtain ⟨⟨_, calmBody⟩, calmNext⟩ := calm
      rw [calm_append]
      refine ⟨?_, ih calmNext⟩
      cases selected with
      | true => exact calmBody
      | false => trivial
  | @either header body alternative next rest selected holds _ ih =>
      obtain ⟨⟨_, calmBody, calmAlternative⟩, calmNext⟩ := calm
      rw [calm_append]
      refine ⟨?_, ih calmNext⟩
      cases selected with
      | true => exact calmBody
      | false => exact calmAlternative
  | loop _ _ insideIH restIH => exact ⟨insideIH calm.1, restIH calm.2⟩

theorem Peels.sound (peels : Peels setting.literalFallback decider template peeled)
    {pending later : List Entries} {context : Entries} {outer : List Entries}
    (sound : Sound setting ⟨decider :: pending, later, context, outer⟩ template) :
    Sound setting ⟨pending, later, context, outer⟩ peeled := by
  induction peels generalizing pending later context outer with
  | done => trivial
  | text content _ ih => exact ih sound
  | tag path _ ih => exact ih sound
  | @guarded header body next rest selected holds _ ih =>
      obtain ⟨⟨_, soundBody⟩, soundNext⟩ := sound
      rw [sound_append]
      refine ⟨?_, ih soundNext⟩
      cases selected with
      | true => exact soundBody
      | false => trivial
  | @either header body alternative next rest selected holds _ ih =>
      obtain ⟨⟨_, soundBody, soundAlternative⟩, soundNext⟩ := sound
      rw [sound_append]
      refine ⟨?_, ih soundNext⟩
      cases selected with
      | true => exact soundBody
      | false => exact soundAlternative
  | loop inside _ insideIH restIH =>
      obtain ⟨iterations, soundNext⟩ := sound
      refine ⟨?_, restIH soundNext⟩
      intro entry member
      obtain ⟨calmBody, soundBody⟩ := iterations entry member
      exact ⟨inside.calm calmBody, insideIH soundBody⟩

theorem Peels.loopDepth_le {literalFallback : Bool}
    (peels : Peels literalFallback decider template peeled) :
    loopDepth peeled ≤ loopDepth template := by
  induction peels with
  | done => exact Nat.le_refl _
  | text content _ ih => exact ih
  | tag path _ ih => exact ih
  | @guarded header body next rest selected holds _ ih =>
      have branch : loopDepth (if selected then body else Template.done) ≤ loopDepth body := by
        cases selected with
        | true => exact Nat.le_refl _
        | false => exact Nat.zero_le _
      rw [loopDepth_append, loopDepth]
      omega
  | @either header body alternative next rest selected holds _ ih =>
      have branch : loopDepth (if selected then body else alternative) ≤
          max (loopDepth body) (loopDepth alternative) := by
        cases selected with
        | true => exact Nat.le_max_left _ _
        | false => exact Nat.le_max_right _ _
      rw [loopDepth_append, loopDepth]
      omega
  | loop _ _ insideIH restIH =>
      rw [loopDepth, loopDepth]
      omega

end Peels

section Bind

variable {bindings : Bindings}

theorem calm_bind (literalFallback : Bool) (pending : List Entries) (template : Template) :
    Calm literalFallback pending (template.bind bindings) ↔
      Calm literalFallback pending template := by
  induction template generalizing pending with
  | done => exact Iff.rfl
  | text content next ih => exact ih pending
  | tag path next ih =>
      rw [bind]
      cases Bindings.bound? path.text bindings <;> exact ih pending
  | guarded header body next bodyIH nextIH =>
      cases pending with
      | nil => exact and_congr Iff.rfl (nextIH _)
      | cons decider pending =>
          exact and_congr (and_congr Iff.rfl (bodyIH pending)) (nextIH _)
  | either header body alternative next bodyIH alternativeIH nextIH =>
      cases pending with
      | nil => exact and_congr Iff.rfl (nextIH _)
      | cons decider pending =>
          exact and_congr
            (and_congr Iff.rfl (and_congr (bodyIH pending) (alternativeIH pending))) (nextIH _)
  | loop header body next _ nextIH => exact and_congr Iff.rfl (nextIH pending)

theorem sound_bind (standing : Standing) (template : Template) :
    Sound setting standing (template.bind bindings) ↔ Sound setting standing template := by
  induction template generalizing standing with
  | done => exact Iff.rfl
  | text content next ih => exact ih standing
  | tag path next ih =>
      rw [bind]
      cases Bindings.bound? path.text bindings <;> exact ih standing
  | guarded header body next bodyIH nextIH =>
      rw [bind, Sound, Sound, nextIH]
      cases standing.next? with
      | none => exact and_congr (bodyIH standing) Iff.rfl
      | some found => exact and_congr (and_congr Iff.rfl (bodyIH found.2)) Iff.rfl
  | either header body alternative next bodyIH alternativeIH nextIH =>
      rw [bind, Sound, Sound, nextIH]
      cases standing.next? with
      | none => exact and_congr (and_congr (bodyIH standing) (alternativeIH standing)) Iff.rfl
      | some found =>
          exact and_congr
            (and_congr Iff.rfl (and_congr (bodyIH found.2) (alternativeIH found.2))) Iff.rfl
  | loop header body next _ nextIH => exact and_congr Iff.rfl (nextIH standing)

theorem loopDepth_bind (template : Template) :
    loopDepth (template.bind bindings) = loopDepth template := by
  induction template with
  | done => rfl
  | text content next ih => exact ih
  | tag path next ih =>
      rw [bind]
      cases Bindings.bound? path.text bindings <;> exact ih
  | guarded header body next bodyIH nextIH => rw [bind, loopDepth, loopDepth, bodyIH, nextIH]
  | either header body alternative next bodyIH alternativeIH nextIH =>
      rw [bind, loopDepth, loopDepth, bodyIH, alternativeIH, nextIH]
  | loop header body next _ nextIH => rw [bind, loopDepth, loopDepth, nextIH]

/-- Filling in bound names keeps the result where they stand for the same. -/
theorem result_bind {standing : Standing} (agree : Loop.Agree bindings standing.context)
    (template : Template) :
    result setting standing (template.bind bindings) = result setting standing template := by
  induction template generalizing standing with
  | done => rfl
  | text content next ih => rw [bind, result, result, ih agree]
  | tag path next ih =>
      rw [bind]
      cases bound : Bindings.bound? path.text bindings with
      | none => rw [result, result, ih agree]
      | some content =>
          rw [result, result, ih agree, shownTag, agree path content bound]
  | guarded header body next bodyIH nextIH =>
      rw [bind, result, result, nextIH agree]
      cases next : standing.next? with
      | none => simp only [bodyIH agree]
      | some found =>
          have inside : Loop.Agree bindings found.2.context := by
            rw [(Standing.context_of_next? next).1]
            exact agree
          simp only [bodyIH inside]
  | either header body alternative next bodyIH alternativeIH nextIH =>
      rw [bind, result, result, nextIH agree]
      cases next : standing.next? with
      | none => simp only [bodyIH agree, alternativeIH agree]
      | some found =>
          have inside : Loop.Agree bindings found.2.context := by
            rw [(Standing.context_of_next? next).1]
            exact agree
          simp only [bodyIH inside, alternativeIH inside]
  | loop header body next _ nextIH => rw [bind, result, result, nextIH agree]

end Bind

section LoopFree

theorem shownTag_congr {first second : Standing} (context : first.context = second.context)
    (outer : first.outer = second.outer) (path : TagPath) :
    shownTag setting first path = shownTag setting second path := by
  rw [shownTag, shownTag, context, outer]

/-- Without loops only the passes that are left count, and what the tags are
shown as. -/
theorem result_congr {first second : Standing} {template : Template}
    (loopFree : loopDepth template = 0) (queue : first.queue = second.queue)
    (tags : AllTags (fun path => shownTag setting first path = shownTag setting second path)
      template) :
    result setting first template = result setting second template := by
  induction template generalizing first second with
  | done => rfl
  | text content next ih => rw [result, result, ih loopFree queue tags]
  | tag path next ih => rw [result, result, tags.1, ih loopFree queue tags.2]
  | guarded header body next bodyIH nextIH =>
      rw [loopDepth, Nat.max_eq_zero_iff] at loopFree
      rw [result, result, nextIH loopFree.2 queue tags.2]
      cases full : first.queue with
      | nil =>
          rw [Standing.next?_eq_none full, Standing.next?_eq_none (queue ▸ full)]
          simp only [bodyIH loopFree.1 queue tags.1]
      | cons decider rest =>
          obtain ⟨one, oneNext, oneQueue, oneContext, oneOuter⟩ := Standing.next?_eq_some full
          obtain ⟨other, otherNext, otherQueue, otherContext, otherOuter⟩ :=
            Standing.next?_eq_some (queue ▸ full)
          have inside : AllTags (fun path => shownTag setting one path =
              shownTag setting other path) body := by
            apply tags.1.imp
            intro path same
            rw [shownTag_congr setting oneContext oneOuter, same]
            exact (shownTag_congr setting otherContext otherOuter path).symm
          rw [oneNext, otherNext]
          simp only [bodyIH loopFree.1 (oneQueue.trans otherQueue.symm) inside]
  | either header body alternative next bodyIH alternativeIH nextIH =>
      rw [loopDepth, Nat.max_eq_zero_iff, Nat.max_eq_zero_iff] at loopFree
      rw [result, result, nextIH loopFree.2.2 queue tags.2.2]
      cases full : first.queue with
      | nil =>
          rw [Standing.next?_eq_none full, Standing.next?_eq_none (queue ▸ full)]
          simp only [bodyIH loopFree.1 queue tags.1, alternativeIH loopFree.2.1 queue tags.2.1]
      | cons decider rest =>
          obtain ⟨one, oneNext, oneQueue, oneContext, oneOuter⟩ := Standing.next?_eq_some full
          obtain ⟨other, otherNext, otherQueue, otherContext, otherOuter⟩ :=
            Standing.next?_eq_some (queue ▸ full)
          have inside : ∀ path, shownTag setting first path = shownTag setting second path →
              shownTag setting one path = shownTag setting other path := by
            intro path same
            rw [shownTag_congr setting oneContext oneOuter, same]
            exact (shownTag_congr setting otherContext otherOuter path).symm
          have queues := oneQueue.trans otherQueue.symm
          rw [oneNext, otherNext]
          simp only [bodyIH loopFree.1 queues (tags.1.imp inside),
            alternativeIH loopFree.2.1 queues (tags.2.1.imp inside)]
  | loop header body next _ _ =>
      rw [loopDepth] at loopFree
      omega

theorem sound_congr {first second : Standing} {template : Template}
    (loopFree : loopDepth template = 0) (queue : first.queue = second.queue)
    (sound : Sound setting first template) : Sound setting second template := by
  induction template generalizing first second with
  | done => trivial
  | text content next ih => exact ih loopFree queue sound
  | tag path next ih => exact ih loopFree queue sound
  | guarded header body next bodyIH nextIH =>
      rw [loopDepth, Nat.max_eq_zero_iff] at loopFree
      obtain ⟨here, later⟩ := sound
      refine ⟨?_, nextIH loopFree.2 queue later⟩
      cases full : first.queue with
      | nil =>
          rw [Standing.next?_eq_none full] at here
          rw [Standing.next?_eq_none (queue ▸ full)]
          exact bodyIH loopFree.1 queue here
      | cons decider rest =>
          obtain ⟨one, oneNext, oneQueue, _⟩ := Standing.next?_eq_some full
          obtain ⟨other, otherNext, otherQueue, _⟩ := Standing.next?_eq_some (queue ▸ full)
          rw [oneNext] at here
          rw [otherNext]
          exact ⟨here.1, bodyIH loopFree.1 (oneQueue.trans otherQueue.symm) here.2⟩
  | either header body alternative next bodyIH alternativeIH nextIH =>
      rw [loopDepth, Nat.max_eq_zero_iff, Nat.max_eq_zero_iff] at loopFree
      obtain ⟨here, later⟩ := sound
      refine ⟨?_, nextIH loopFree.2.2 queue later⟩
      cases full : first.queue with
      | nil =>
          rw [Standing.next?_eq_none full] at here
          rw [Standing.next?_eq_none (queue ▸ full)]
          exact ⟨bodyIH loopFree.1 queue here.1, alternativeIH loopFree.2.1 queue here.2⟩
      | cons decider rest =>
          obtain ⟨one, oneNext, oneQueue, _⟩ := Standing.next?_eq_some full
          obtain ⟨other, otherNext, otherQueue, _⟩ := Standing.next?_eq_some (queue ▸ full)
          have queues := oneQueue.trans otherQueue.symm
          rw [oneNext] at here
          rw [otherNext]
          exact ⟨here.1, bodyIH loopFree.1 queues here.2.1,
            alternativeIH loopFree.2.1 queues here.2.2⟩
  | loop header body next _ _ =>
      rw [loopDepth] at loopFree
      omega

theorem calm_of_sound {pending later : List Entries} {context : Entries} {outer : List Entries}
    {template : Template} (loopFree : loopDepth template = 0)
    (sound : Sound setting ⟨pending, later, context, outer⟩ template) :
    Calm setting.literalFallback pending template := by
  induction template generalizing pending with
  | done => trivial
  | text content next ih => exact ih loopFree sound
  | tag path next ih => exact ih loopFree sound
  | guarded header body next bodyIH nextIH =>
      rw [loopDepth, Nat.max_eq_zero_iff] at loopFree
      refine ⟨?_, nextIH loopFree.2 sound.2⟩
      cases pending with
      | nil => trivial
      | cons decider pending => exact ⟨sound.1.1, bodyIH loopFree.1 sound.1.2⟩
  | either header body alternative next bodyIH alternativeIH nextIH =>
      rw [loopDepth, Nat.max_eq_zero_iff, Nat.max_eq_zero_iff] at loopFree
      refine ⟨?_, nextIH loopFree.2.2 sound.2⟩
      cases pending with
      | nil => trivial
      | cons decider pending =>
          exact ⟨sound.1.1, bodyIH loopFree.1 sound.1.2.1, alternativeIH loopFree.2.1 sound.1.2.2⟩
  | loop header body next _ _ =>
      rw [loopDepth] at loopFree
      omega

end LoopFree

section Fill

/-- A tag that the pass over expressions in a context leaves. -/
def Unfilled (context : Entries) (path : TagPath) : Prop :=
  setting.interpolation.preserveUndefined = true ∧ context.shown? path.text = none

theorem loopDepth_fill (preserveUndefined : Bool) (context : Entries) (template : Template) :
    loopDepth (template.fill preserveUndefined context) = loopDepth template := by
  induction template with
  | done => rfl
  | text content next ih => exact ih
  | tag path next ih =>
      rw [fill]
      cases context.shown? path.text with
      | some content => exact ih
      | none => cases preserveUndefined <;> exact ih
  | guarded header body next bodyIH nextIH => rw [fill, loopDepth, loopDepth, bodyIH, nextIH]
  | either header body alternative next bodyIH alternativeIH nextIH =>
      rw [fill, loopDepth, loopDepth, bodyIH, alternativeIH, nextIH]
  | loop header body next bodyIH nextIH => rw [fill, loopDepth, loopDepth, bodyIH, nextIH]

theorem allTags_fill (context : Entries) (template : Template) :
    AllTags (Unfilled setting context)
      (template.fill setting.interpolation.preserveUndefined context) := by
  induction template with
  | done => trivial
  | text content next ih => exact ih
  | tag path next ih =>
      rw [fill]
      cases shown : context.shown? path.text with
      | some content => exact ih
      | none =>
          cases preserve : setting.interpolation.preserveUndefined with
          | true =>
              rw [preserve] at ih
              exact ⟨⟨preserve, shown⟩, ih⟩
          | false =>
              rw [preserve] at ih
              exact ih
  | guarded header body next bodyIH nextIH => exact ⟨bodyIH, nextIH⟩
  | either header body alternative next bodyIH alternativeIH nextIH =>
      exact ⟨bodyIH, alternativeIH, nextIH⟩
  | loop header body next bodyIH nextIH => exact ⟨bodyIH, nextIH⟩

theorem sound_fill (preserveUndefined : Bool) (context : Entries) {standing : Standing}
    {template : Template} (loopFree : loopDepth template = 0)
    (sound : Sound setting standing template) :
    Sound setting standing (template.fill preserveUndefined context) := by
  induction template generalizing standing with
  | done => trivial
  | text content next ih => exact ih loopFree sound
  | tag path next ih =>
      rw [fill]
      cases context.shown? path.text with
      | some content => exact ih loopFree sound
      | none => cases preserveUndefined <;> exact ih loopFree sound
  | guarded header body next bodyIH nextIH =>
      rw [loopDepth, Nat.max_eq_zero_iff] at loopFree
      obtain ⟨here, later⟩ := sound
      refine ⟨?_, nextIH loopFree.2 later⟩
      cases next : standing.next? with
      | none =>
          rw [next] at here
          exact bodyIH loopFree.1 here
      | some found =>
          rw [next] at here
          exact ⟨here.1, bodyIH loopFree.1 here.2⟩
  | either header body alternative next bodyIH alternativeIH nextIH =>
      rw [loopDepth, Nat.max_eq_zero_iff, Nat.max_eq_zero_iff] at loopFree
      obtain ⟨here, later⟩ := sound
      refine ⟨?_, nextIH loopFree.2.2 later⟩
      cases next : standing.next? with
      | none =>
          rw [next] at here
          exact ⟨bodyIH loopFree.1 here.1, alternativeIH loopFree.2.1 here.2⟩
      | some found =>
          rw [next] at here
          exact ⟨here.1, bodyIH loopFree.1 here.2.1, alternativeIH loopFree.2.1 here.2.2⟩
  | loop header body next _ _ =>
      rw [loopDepth] at loopFree
      omega

/-- The pass over expressions keeps the result where its context is the own
one. -/
theorem result_fill (standing : Standing) {template : Template}
    (loopFree : loopDepth template = 0) :
    result setting standing
        (template.fill setting.interpolation.preserveUndefined standing.context) =
      result setting standing template := by
  induction template generalizing standing with
  | done => rfl
  | text content next ih => rw [fill, result, result, ih standing loopFree]
  | tag path next ih =>
      rw [fill, result, shownTag]
      cases shown : standing.context.shown? path.text with
      | some content => rw [result, ih standing loopFree]
      | none =>
          cases preserve : setting.interpolation.preserveUndefined with
          | true =>
              have later := ih standing loopFree
              rw [preserve] at later
              simp only [if_true]
              rw [result, shownTag, shown, preserve, later]
              simp
          | false =>
              have later := ih standing loopFree
              rw [preserve] at later
              simpa using later
  | guarded header body next bodyIH nextIH =>
      rw [loopDepth, Nat.max_eq_zero_iff] at loopFree
      rw [fill, result, result, nextIH standing loopFree.2]
      cases next : standing.next? with
      | none => simp only [bodyIH standing loopFree.1]
      | some found =>
          have inside := bodyIH found.2 loopFree.1
          rw [(Standing.context_of_next? next).1] at inside
          simp only [inside]
  | either header body alternative next bodyIH alternativeIH nextIH =>
      rw [loopDepth, Nat.max_eq_zero_iff, Nat.max_eq_zero_iff] at loopFree
      rw [fill, result, result, nextIH standing loopFree.2.2]
      cases next : standing.next? with
      | none => simp only [bodyIH standing loopFree.1, alternativeIH standing loopFree.2.1]
      | some found =>
          have inside := bodyIH found.2 loopFree.1
          have otherwise := alternativeIH found.2 loopFree.2.1
          rw [(Standing.context_of_next? next).1] at inside otherwise
          simp only [inside, otherwise]
  | loop header body next _ _ =>
      rw [loopDepth] at loopFree
      omega

end Fill

end Template

end Stencil
