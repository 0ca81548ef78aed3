import Stencil.Proofs.Template.Rendered

/-!
# What iterations leave

What an iteration leaves undecided is text, and the passes around the iteration
read that text again in their own contexts.  The closed result of a template is
the one in which they would not.  A render gives the closed result exactly if
what is left over means nothing to the passes that read it again: a path that
stands for nothing in the iteration stands for nothing around it, and no block
is left while a pass is still to come.
-/

namespace Stencil

namespace Standing

/-- Where the body of a loop stands in an iteration that nothing reads again.  Blocks in
the body are still decided by the contexts that are pending: those of the iterations around
the loop come before that of the iteration itself. -/
def enterClosed (standing : Standing) (passes : Nat) (scope : Entries) : Standing where
  pending := standing.pending ++ [scope]
  later := List.replicate (passes - 1) scope
  context := scope
  outer := []

/-- The same place within contexts whose passes come afterwards. -/
def within (standing : Standing) (hidden outer : List Entries) : Standing where
  pending := standing.pending
  later := standing.later ++ hidden
  context := standing.context
  outer := outer

theorem enter_within (standing : Standing) (hidden outer : List Entries) (passes : Nat)
    (scope : Entries) :
    (standing.within hidden outer).enter passes scope =
      (standing.enterClosed passes scope).within (standing.later ++ hidden)
        (standing.context :: outer) := rfl

theorem next?_within {standing after : Standing} {decider : Entries}
    (due : standing.next? = some (decider, after)) (hidden outer : List Entries) :
    (standing.within hidden outer).next? = some (decider, after.within hidden outer) := by
  obtain ⟨pending, later, context, around⟩ := standing
  cases pending with
  | nil =>
      cases later with
      | nil => exact absurd due (by simp [next?])
      | cons first later =>
          cases due
          rfl
  | cons first pending =>
      cases due
      rfl

theorem next?_within_nil {standing : Standing} (idle : standing.next? = none)
    (outer : List Entries) : (standing.within [] outer).next? = none := by
  obtain ⟨pending, later, context, around⟩ := standing
  cases pending with
  | nil =>
      cases later with
      | nil => rfl
      | cons first later => exact absurd idle (by simp [next?])
  | cons first pending => exact absurd idle (by simp [next?])

theorem next?_within_cons {standing : Standing} (idle : standing.next? = none) (decider : Entries)
    (hidden outer : List Entries) :
    (standing.within (decider :: hidden) outer).next? =
      some (decider, standing.within hidden outer) := by
  obtain ⟨pending, later, context, around⟩ := standing
  cases pending with
  | nil =>
      cases later with
      | nil => rfl
      | cons first later => exact absurd idle (by simp [next?])
  | cons first pending => exact absurd idle (by simp [next?])

end Standing

namespace Tag

def count (text : Text) : Nat :=
  (expressionTag.tokens text).length

/-- Whether the tags of a text are the same, whatever follows it. -/
def Apart (text : Text) : Prop :=
  ∀ rest, count (text ++ rest) = count text + count rest

theorem count_nil : count [] = 0 := by
  simp [count, Matcher.tokens, Matcher.pieces]

theorem count_inert_append {text : Text} (inert : Text.isInert text = true) (rest : Text) :
    count (text ++ rest) = count rest := by
  have plain : (text.map (Piece.plain (α := Text))).filterMap Piece.token? = [] := by
    rw [List.filterMap_map, List.filterMap_eq_nil_iff]
    intro char _
    rfl
  rw [count, Matcher.tokens, Matcher.pieces_inert_append startsOpen_expressionTag inert,
    List.filterMap_append, plain]
  rfl

theorem count_inert {text : Text} (inert : Text.isInert text = true) : count text = 0 := by
  have whole := count_inert_append inert []
  rwa [List.append_nil, count_nil] at whole

theorem count_tagged_append {interior : Text} (free : Text.isBraceFree interior = true)
    (nonempty : interior ≠ []) (rest : Text) :
    count (tagged interior ++ rest) = 1 + count rest := by
  rw [count, Matcher.tokens, pieces_expressionTag_tagged free nonempty]
  exact Nat.add_comm (count rest) 1

theorem count_tagged {interior : Text} (free : Text.isBraceFree interior = true)
    (nonempty : interior ≠ []) : count (tagged interior) = 1 := by
  have whole := count_tagged_append free nonempty []
  rwa [List.append_nil, count_nil] at whole

theorem apart_nil : Apart [] := by
  intro rest
  rw [count_nil, Nat.zero_add]
  rfl

theorem apart_inert {text : Text} (inert : Text.isInert text = true) : Apart text := by
  intro rest
  rw [count_inert_append inert, count_inert inert, Nat.zero_add]

theorem apart_tagged {interior : Text} (free : Text.isBraceFree interior = true)
    (nonempty : interior ≠ []) : Apart (tagged interior) := by
  intro rest
  rw [count_tagged_append free nonempty, count_tagged free nonempty]

theorem apart_append {first later : Text} (left : Apart first) (right : Apart later) :
    Apart (first ++ later) := by
  intro rest
  rw [List.append_assoc, left, right, left, Nat.add_assoc]

theorem apart_flatMap {list : List α} {text : α → Text}
    (each : ∀ member ∈ list, Apart (text member)) : Apart (list.flatMap text) := by
  induction list with
  | nil => exact apart_nil
  | cons first later ih =>
      rw [List.flatMap_cons]
      exact apart_append (each first List.mem_cons_self)
        (ih fun member among => each member (List.mem_cons_of_mem first among))

/-- If each piece of one row has at most as many tags as that of another, so has
the whole row, and as many only if each piece has. -/
theorem count_flatMap_le {list : List α} {first second : α → Text}
    (apartFirst : ∀ member ∈ list, Apart (first member))
    (apartSecond : ∀ member ∈ list, Apart (second member))
    (fewer : ∀ member ∈ list, count (first member) ≤ count (second member)) :
    count (list.flatMap first) ≤ count (list.flatMap second) ∧
      (count (list.flatMap first) = count (list.flatMap second) →
        ∀ member ∈ list, count (first member) = count (second member)) := by
  induction list with
  | nil => simp
  | cons head tail ih =>
      obtain ⟨le, same⟩ := ih
        (fun member among => apartFirst member (List.mem_cons_of_mem head among))
        (fun member among => apartSecond member (List.mem_cons_of_mem head among))
        (fun member among => fewer member (List.mem_cons_of_mem head among))
      have here := fewer head List.mem_cons_self
      rw [List.flatMap_cons, List.flatMap_cons, apartFirst head List.mem_cons_self,
        apartSecond head List.mem_cons_self]
      refine ⟨by omega, ?_⟩
      intro equal member among
      rcases List.mem_cons.mp among with rfl | inside
      · omega
      · exact same (by omega) member inside

end Tag

namespace Template

open Tag

variable (setting : Loop.Setting)

/-- What a template comes to if nothing around an iteration reads what it
leaves.  An iteration decides the blocks of its whole body, those inside nested loops too,
before it expands these loops.  So blocks in nested loops are still decided by the pending
contexts of the iterations around them, here as in `result`. -/
def closedResult (standing : Standing) : Template → Text
  | done => []
  | text content next => content.text ++ closedResult standing next
  | tag path next => shownTag setting standing path ++ closedResult standing next
  | guarded header body next =>
      (match standing.next? with
        | some (decider, after) =>
            if header.selects setting.literalFallback decider then closedResult after body else []
        | none =>
            tagged header.interior ++ closedResult standing body ++ tagged endifWord)
        ++ closedResult standing next
  | either header body alternative next =>
      (match standing.next? with
        | some (decider, after) =>
            if header.selects setting.literalFallback decider then closedResult after body
            else closedResult after alternative
        | none =>
            tagged header.interior ++ closedResult standing body ++ tagged elseWord
              ++ closedResult standing alternative ++ tagged endifWord)
        ++ closedResult standing next
  | loop header body next =>
      ((header.entries standing.context).flatMap fun entry =>
          closedResult (standing.enterClosed setting.passes (header.scope standing.context entry))
            body)
        ++ closedResult standing next

/-- Whether what is left of a template means nothing to what is around it: to
the passes with hidden contexts, which come afterwards, and to the contexts
around its own. -/
def Contained (hidden outer : List Entries) (standing : Standing) : Template → Prop
  | done => True
  | text _ next => Contained hidden outer standing next
  | tag path next =>
      (setting.interpolation.preserveUndefined = true →
        standing.context.shown? path.text = none →
          ∀ context ∈ outer, context.shown? path.text = none)
        ∧ Contained hidden outer standing next
  | guarded header body next =>
      (match standing.next? with
        | some (decider, after) =>
            header.selects setting.literalFallback decider = true →
              Contained hidden outer after body
        | none => hidden = [] ∧ Contained hidden outer standing body)
        ∧ Contained hidden outer standing next
  | either header body alternative next =>
      (match standing.next? with
        | some (decider, after) =>
            (header.selects setting.literalFallback decider = true →
              Contained hidden outer after body) ∧
            (header.selects setting.literalFallback decider = false →
              Contained hidden outer after alternative)
        | none =>
            hidden = [] ∧ Contained hidden outer standing body ∧
              Contained hidden outer standing alternative)
        ∧ Contained hidden outer standing next
  | loop header body next =>
      (∀ entry ∈ header.entries standing.context,
        Contained (standing.later ++ hidden) (standing.context :: outer)
          (standing.enterClosed setting.passes (header.scope standing.context entry)) body)
        ∧ Contained hidden outer standing next

theorem apart_shownTag (standing : Standing) (path : TagPath) :
    Apart (shownTag setting standing path) := by
  unfold shownTag
  cases standing.context.shown? path.text with
  | some content => exact apart_inert content.inert
  | none =>
      cases setting.interpolation.preserveUndefined with
      | false => exact apart_nil
      | true =>
          cases standing.outer.findSome? (·.shown? path.text) with
          | some content => exact apart_inert content.inert
          | none => exact apart_tagged path.isBraceFree path.wellFormed.1

theorem apart_ifBlock (header : IfHeader) {body : Text} (apart : Apart body) :
    Apart (tagged header.interior ++ body ++ tagged endifWord) := by
  have opener := apart_tagged header.interior_isBraceFree (interior_ne_nil header)
  have closer := apart_tagged endifWord_isBraceFree (by decide)
  exact apart_append (apart_append opener apart) closer

theorem apart_dividedBlock (header : IfHeader) {body alternative : Text} (apart : Apart body)
    (otherwise : Apart alternative) :
    Apart (tagged header.interior ++ body ++ tagged elseWord ++ alternative
      ++ tagged endifWord) := by
  have opener := apart_tagged header.interior_isBraceFree (interior_ne_nil header)
  have separator := apart_tagged elseWord_isBraceFree (by decide)
  have closer := apart_tagged endifWord_isBraceFree (by decide)
  exact apart_append
    (apart_append (apart_append (apart_append opener apart) separator) otherwise) closer

theorem count_ifBlock (header : IfHeader) {body : Text} (apart : Apart body) :
    count (tagged header.interior ++ body ++ tagged endifWord) = count body + 2 := by
  have opener := apart_tagged header.interior_isBraceFree (interior_ne_nil header)
  rw [apart_append opener apart, opener, count_tagged endifWord_isBraceFree (by decide),
    count_tagged header.interior_isBraceFree (interior_ne_nil header)]
  omega

theorem count_dividedBlock (header : IfHeader) {body alternative : Text} (apart : Apart body)
    (otherwise : Apart alternative) :
    count (tagged header.interior ++ body ++ tagged elseWord ++ alternative ++ tagged endifWord) =
      count body + count alternative + 3 := by
  have opener := apart_tagged header.interior_isBraceFree (interior_ne_nil header)
  have separator := apart_tagged elseWord_isBraceFree (by decide)
  have divided := apart_append (apart_append opener apart) separator
  rw [apart_append divided otherwise, divided, apart_append opener apart, opener,
    count_tagged endifWord_isBraceFree (by decide), count_tagged elseWord_isBraceFree (by decide),
    count_tagged header.interior_isBraceFree (interior_ne_nil header)]
  omega

theorem apart_result (standing : Standing) (template : Template) :
    Apart (result setting standing template) := by
  induction template generalizing standing with
  | done => exact apart_nil
  | text content next ih => exact apart_append (apart_inert content.inert) (ih standing)
  | tag path next ih => exact apart_append (apart_shownTag setting standing path) (ih standing)
  | guarded header body next bodyIH nextIH =>
      rw [result]
      apply apart_append _ (nextIH standing)
      cases standing.next? with
      | none => exact apart_ifBlock header (bodyIH standing)
      | some found =>
          dsimp only
          split
          · exact bodyIH found.2
          · exact apart_nil
  | either header body alternative next bodyIH alternativeIH nextIH =>
      rw [result]
      apply apart_append _ (nextIH standing)
      cases standing.next? with
      | none => exact apart_dividedBlock header (bodyIH standing) (alternativeIH standing)
      | some found =>
          dsimp only
          split
          · exact bodyIH found.2
          · exact alternativeIH found.2
  | loop header body next bodyIH nextIH =>
      exact apart_append (apart_flatMap fun _ _ => bodyIH _) (nextIH standing)

theorem apart_closedResult (standing : Standing) (template : Template) :
    Apart (closedResult setting standing template) := by
  induction template generalizing standing with
  | done => exact apart_nil
  | text content next ih => exact apart_append (apart_inert content.inert) (ih standing)
  | tag path next ih => exact apart_append (apart_shownTag setting standing path) (ih standing)
  | guarded header body next bodyIH nextIH =>
      rw [closedResult]
      apply apart_append _ (nextIH standing)
      cases standing.next? with
      | none => exact apart_ifBlock header (bodyIH standing)
      | some found =>
          dsimp only
          split
          · exact bodyIH found.2
          · exact apart_nil
  | either header body alternative next bodyIH alternativeIH nextIH =>
      rw [closedResult]
      apply apart_append _ (nextIH standing)
      cases standing.next? with
      | none => exact apart_dividedBlock header (bodyIH standing) (alternativeIH standing)
      | some found =>
          dsimp only
          split
          · exact bodyIH found.2
          · exact alternativeIH found.2
  | loop header body next bodyIH nextIH =>
      exact apart_append (apart_flatMap fun _ _ => bodyIH _) (nextIH standing)

variable {setting}

theorem shownTag_within {hidden outer : List Entries} {standing : Standing}
    (closed : standing.outer = []) {path : TagPath}
    (contained : setting.interpolation.preserveUndefined = true →
      standing.context.shown? path.text = none →
        ∀ context ∈ outer, context.shown? path.text = none) :
    shownTag setting (standing.within hidden outer) path = shownTag setting standing path := by
  have context : (standing.within hidden outer).context = standing.context := rfl
  have around : (standing.within hidden outer).outer = outer := rfl
  rw [shownTag, shownTag, context, around, closed]
  cases shown : standing.context.shown? path.text with
  | some content => rfl
  | none =>
      cases preserve : setting.interpolation.preserveUndefined with
      | false => rfl
      | true =>
          have nowhere := List.findSome?_eq_none_iff.mpr (contained preserve shown)
          rw [nowhere]
          rfl

/-- What is contained is read by nothing else. -/
theorem result_within {hidden outer : List Entries} {standing : Standing} {template : Template}
    (closed : standing.outer = []) (contained : Contained setting hidden outer standing template) :
    result setting (standing.within hidden outer) template =
      closedResult setting standing template := by
  induction template generalizing hidden outer standing with
  | done => rfl
  | text content next ih => rw [result, closedResult, ih closed contained]
  | tag path next ih =>
      rw [result, closedResult, shownTag_within closed contained.1, ih closed contained.2]
  | guarded header body next bodyIH nextIH =>
      rw [result, closedResult, nextIH closed contained.2]
      have here := contained.1
      cases due : standing.next? with
      | none =>
          rw [due] at here
          obtain ⟨rfl, inside⟩ := here
          rw [Standing.next?_within_nil due]
          simp only [bodyIH closed inside]
      | some found =>
          rw [due] at here
          have outside : found.2.outer = [] := (Standing.context_of_next? due).2.trans closed
          rw [Standing.next?_within due]
          dsimp only at here ⊢
          split
          next selected => rw [bodyIH outside (here selected)]
          next => rfl
  | either header body alternative next bodyIH alternativeIH nextIH =>
      rw [result, closedResult, nextIH closed contained.2]
      have here := contained.1
      cases due : standing.next? with
      | none =>
          rw [due] at here
          obtain ⟨rfl, inside, otherwise⟩ := here
          rw [Standing.next?_within_nil due]
          simp only [bodyIH closed inside, alternativeIH closed otherwise]
      | some found =>
          rw [due] at here
          have outside : found.2.outer = [] := (Standing.context_of_next? due).2.trans closed
          rw [Standing.next?_within due]
          dsimp only at here ⊢
          split
          next selected => rw [bodyIH outside (here.1 selected)]
          next rejected =>
            rw [alternativeIH outside (here.2 (Bool.eq_false_iff.mpr rejected))]
  | loop header body next bodyIH nextIH =>
      rw [result, closedResult, nextIH closed contained.2]
      congr 1
      apply List.flatMap_congr
      intro entry among
      rw [Standing.enter_within]
      exact bodyIH rfl (contained.1 entry among)

variable (setting)

theorem count_shownTag_within (hidden outer : List Entries) {standing : Standing}
    (closed : standing.outer = []) (path : TagPath) :
    count (shownTag setting (standing.within hidden outer) path) ≤
        count (shownTag setting standing path) ∧
      (count (shownTag setting (standing.within hidden outer) path) =
          count (shownTag setting standing path) →
        setting.interpolation.preserveUndefined = true →
          standing.context.shown? path.text = none →
            ∀ context ∈ outer, context.shown? path.text = none) := by
  by_cases contained : setting.interpolation.preserveUndefined = true →
      standing.context.shown? path.text = none →
        ∀ context ∈ outer, context.shown? path.text = none
  · rw [shownTag_within closed contained]
    exact ⟨Nat.le_refl _, fun _ => contained⟩
  · obtain ⟨preserve, undefined⟩ := Classical.not_imp.mp contained
    obtain ⟨shown, somewhere⟩ := Classical.not_imp.mp undefined
    have kept : shownTag setting standing path = tagged path.text := by
      rw [shownTag, shown, closed, preserve]
      rfl
    have found : outer.findSome? (·.shown? path.text) ≠ none := by
      intro nowhere
      exact somewhere (List.findSome?_eq_none_iff.mp nowhere)
    obtain ⟨content, around⟩ := Option.ne_none_iff_exists'.mp found
    have filled : shownTag setting (standing.within hidden outer) path = content.text := by
      have same : (standing.within hidden outer).context = standing.context := rfl
      have beyond : (standing.within hidden outer).outer = outer := rfl
      rw [shownTag, same, shown, preserve, beyond, around]
      rfl
    rw [kept, filled, count_inert content.inert, count_tagged path.isBraceFree path.wellFormed.1]
    exact ⟨Nat.zero_le 1, fun equal => absurd equal (by decide)⟩

/-- What is read again never gains a tag, and it keeps all of them only if it
is contained. -/
theorem count_result_within (hidden outer : List Entries) {standing : Standing}
    (closed : standing.outer = []) (template : Template) :
    count (result setting (standing.within hidden outer) template) ≤
        count (closedResult setting standing template) ∧
      (count (result setting (standing.within hidden outer) template) =
          count (closedResult setting standing template) →
        Contained setting hidden outer standing template) := by
  induction template generalizing hidden outer standing with
  | done => exact ⟨Nat.le_refl _, fun _ => trivial⟩
  | text content next ih =>
      rw [result, closedResult, count_inert_append content.inert,
        count_inert_append content.inert]
      exact ih hidden outer closed
  | tag path next ih =>
      obtain ⟨fewerHere, sameHere⟩ := count_shownTag_within setting hidden outer closed path
      obtain ⟨fewerNext, sameNext⟩ := ih hidden outer closed
      rw [result, closedResult, apart_shownTag, apart_shownTag]
      refine ⟨by omega, ?_⟩
      intro equal
      exact ⟨sameHere (by omega), sameNext (by omega)⟩
  | guarded header body next bodyIH nextIH =>
      obtain ⟨fewerNext, sameNext⟩ := nextIH hidden outer closed
      rw [result, closedResult, Contained]
      cases due : standing.next? with
      | none =>
          have left := apart_closedResult setting standing body
          rw [apart_ifBlock header left, count_ifBlock header left]
          cases hidden with
          | nil =>
              obtain ⟨fewerBody, sameBody⟩ := bodyIH [] outer closed
              have kept := apart_result setting (standing.within [] outer) body
              rw [Standing.next?_within_nil due, apart_ifBlock header kept,
                count_ifBlock header kept]
              refine ⟨by omega, ?_⟩
              intro equal
              exact ⟨⟨rfl, sameBody (by omega)⟩, sameNext (by omega)⟩
          | cons decider hidden =>
              -- The block is decided, so at least its own tags are gone.
              obtain ⟨fewerBody, _⟩ := bodyIH hidden outer closed
              rw [Standing.next?_within_cons due]
              dsimp only
              split
              · rw [apart_result setting _ body]
                exact ⟨by omega, fun equal => by omega⟩
              · rw [List.nil_append]
                exact ⟨by omega, fun equal => by omega⟩
      | some found =>
          have outside : found.2.outer = [] := (Standing.context_of_next? due).2.trans closed
          obtain ⟨fewerBody, sameBody⟩ := bodyIH hidden outer outside
          rw [Standing.next?_within due]
          dsimp only
          cases selected : header.selects setting.literalFallback found.1 with
          | true =>
              rw [if_pos rfl, if_pos rfl, apart_result setting _ body,
                apart_closedResult setting _ body]
              refine ⟨by omega, ?_⟩
              intro equal
              exact ⟨fun _ => sameBody (by omega), sameNext (by omega)⟩
          | false =>
              refine ⟨fewerNext, ?_⟩
              intro equal
              exact ⟨fun impossible => Bool.noConfusion impossible, sameNext equal⟩
  | either header body alternative next bodyIH alternativeIH nextIH =>
      obtain ⟨fewerNext, sameNext⟩ := nextIH hidden outer closed
      rw [result, closedResult, Contained]
      cases due : standing.next? with
      | none =>
          have left := apart_closedResult setting standing body
          have otherwise := apart_closedResult setting standing alternative
          rw [apart_dividedBlock header left otherwise, count_dividedBlock header left otherwise]
          cases hidden with
          | nil =>
              obtain ⟨fewerBody, sameBody⟩ := bodyIH [] outer closed
              obtain ⟨fewerAlternative, sameAlternative⟩ := alternativeIH [] outer closed
              have kept := apart_result setting (standing.within [] outer) body
              have keptToo := apart_result setting (standing.within [] outer) alternative
              rw [Standing.next?_within_nil due, apart_dividedBlock header kept keptToo,
                count_dividedBlock header kept keptToo]
              refine ⟨by omega, ?_⟩
              intro equal
              exact ⟨⟨rfl, sameBody (by omega), sameAlternative (by omega)⟩, sameNext (by omega)⟩
          | cons decider hidden =>
              obtain ⟨fewerBody, _⟩ := bodyIH hidden outer closed
              obtain ⟨fewerAlternative, _⟩ := alternativeIH hidden outer closed
              rw [Standing.next?_within_cons due]
              dsimp only
              split
              · rw [apart_result setting _ body]
                exact ⟨by omega, fun equal => by omega⟩
              · rw [apart_result setting _ alternative]
                exact ⟨by omega, fun equal => by omega⟩
      | some found =>
          have outside : found.2.outer = [] := (Standing.context_of_next? due).2.trans closed
          obtain ⟨fewerBody, sameBody⟩ := bodyIH hidden outer outside
          obtain ⟨fewerAlternative, sameAlternative⟩ := alternativeIH hidden outer outside
          rw [Standing.next?_within due]
          dsimp only
          cases selected : header.selects setting.literalFallback found.1 with
          | true =>
              rw [if_pos rfl, if_pos rfl, apart_result setting _ body,
                apart_closedResult setting _ body]
              refine ⟨by omega, ?_⟩
              intro equal
              exact ⟨⟨fun _ => sameBody (by omega), fun impossible => Bool.noConfusion impossible⟩,
                sameNext (by omega)⟩
          | false =>
              rw [if_neg Bool.false_ne_true, if_neg Bool.false_ne_true,
                apart_result setting _ alternative, apart_closedResult setting _ alternative]
              refine ⟨by omega, ?_⟩
              intro equal
              exact ⟨⟨fun impossible => Bool.noConfusion impossible,
                fun _ => sameAlternative (by omega)⟩, sameNext (by omega)⟩
  | loop header body next bodyIH nextIH =>
      obtain ⟨fewerNext, sameNext⟩ := nextIH hidden outer closed
      have eachRow (entry : Value × Value) := bodyIH (standing.later ++ hidden)
        (standing.context :: outer) (rfl : (standing.enterClosed setting.passes
          (header.scope standing.context entry)).outer = [])
      obtain ⟨fewerRows, sameRows⟩ := count_flatMap_le
        (fun entry (_ : entry ∈ header.entries standing.context) => apart_result setting _ body)
        (fun entry _ => apart_closedResult setting _ body)
        (fun entry _ => (eachRow entry).1)
      have expanded : result setting (standing.within hidden outer) (loop header body next) =
          ((header.entries standing.context).flatMap fun entry =>
            result setting
              ((standing.enterClosed setting.passes (header.scope standing.context entry)).within
                (standing.later ++ hidden) (standing.context :: outer)) body)
          ++ result setting (standing.within hidden outer) next := rfl
      rw [expanded, closedResult, apart_flatMap fun _ _ => apart_result setting _ body,
        apart_flatMap fun _ _ => apart_closedResult setting _ body]
      refine ⟨by omega, ?_⟩
      intro equal
      refine ⟨?_, sameNext (by omega)⟩
      intro entry among
      exact (eachRow entry).2 (sameRows (by omega) entry among)

end Template

namespace Engine

open Template

/-- A template renders to its result, and this is the closed one exactly if
what is left of each iteration means nothing to the passes and the contexts
around it. -/
theorem renderText_eq_closedResult_iff {engine : Engine} (ready : engine.Ready)
    (options : Options) {data : Entries} (plain : data.IsPlain) {template : Template}
    (sound : template.Sound (engine.rendering options).loops
      (.root engine.config.maxPasses data)) :
    (engine.renderText options data template.print).outcome =
        .ok (template.result (engine.rendering options).loops
          (.root engine.config.maxPasses data)) ∧
      ((engine.renderText options data template.print).outcome =
          .ok (template.closedResult (engine.rendering options).loops
            (.root engine.config.maxPasses data)) ↔
        template.Contained (engine.rendering options).loops [] []
          (.root engine.config.maxPasses data)) := by
  have alone : (Standing.root engine.config.maxPasses data).within [] [] =
      Standing.root engine.config.maxPasses data := by
    simp [Standing.within, Standing.root]
  have closed : (Standing.root engine.config.maxPasses data).outer = [] := rfl
  have rendered := outcome_renderText_print options ready plain sound
  refine ⟨rendered, ?_, ?_⟩
  · intro agreed
    rw [rendered] at agreed
    injection agreed with same
    apply (count_result_within (engine.rendering options).loops [] [] closed template).2
    rw [alone, same]
  · intro contained
    rw [rendered, ← result_within closed contained, alone]

/-- An engine that goes over the body of a loop only once. -/
def hasty : Engine :=
  { standard with config := { Config.default with loopMaxPasses := 1 } }

/-- A block on a part of the line inside a block on the line itself, after a tag
for the part, in a loop over lines. -/
def lineParts : Template :=
  loop ⟨⟨"lines".toList, by decide +kernel⟩,
      some (⟨"n".toList, by decide +kernel⟩, ⟨"x".toList, by decide +kernel⟩)⟩
    (tag ⟨"x.y".toList, by decide +kernel⟩
      (guarded ⟨"x".toList, by decide, by decide⟩
        (either ⟨"x.y".toList, by decide, by decide⟩ (text (.ofText "T".toList) done)
          (text (.ofText "F".toList) done) done)
        done))
    done

/-- A line without the part, and around it the name of the line for something
that has it. -/
def shadowedData : Entries :=
  [(.text "x".toList, .map 2 false [(.text "y".toList, .text "LEAK".toList)]),
    (.text "lines".toList, .list 3 [.map 4 false [(.text "z".toList, .bool true)]])]

/-- The tag is filled in, and the block that the only pass over the body leaves
is decided, by what the name of the line stands for around the loop. -/
theorem renderText_lineParts :
    (hasty.renderText Options.default shadowedData lineParts.print).outcome =
        .ok "LEAKT".toList ∧
      lineParts.closedResult (hasty.rendering Options.default).loops
          (.root hasty.config.maxPasses shadowedData) =
        Tag.tagged "x.y".toList ++ Tag.tagged "if x.y".toList ++ "T".toList
          ++ Tag.tagged Tag.elseWord ++ "F".toList ++ Tag.tagged Tag.endifWord := by
  have ready : hasty.Ready := ⟨rfl, by decide, by decide⟩
  have sound : lineParts.Sound (hasty.rendering Options.default).loops
      (.root hasty.config.maxPasses shadowedData) := by
    refine ⟨?_, trivial⟩
    intro line _
    refine ⟨⟨⟨⟨_, rfl⟩, trivial, trivial⟩, trivial⟩, ⟨⟨_, rfl⟩, ?_⟩, trivial⟩
    exact ⟨⟨⟨_, rfl⟩, trivial, trivial⟩, trivial⟩
  have rendered := (renderText_eq_closedResult_iff ready Options.default
    (by decide +kernel) sound).1
  refine ⟨?_, by decide +kernel⟩
  rw [rendered]
  decide +kernel

end Engine

end Stencil
