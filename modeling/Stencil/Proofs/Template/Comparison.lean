import Stencil.Proofs.Data.Equality
import Stencil.Proofs.Template.Unquoted
import Stencil.Template.Condition

/-!
# Comparisons with quoted literals

The signs of the comparisons are searched for one after the other in a whole
condition, so a condition is split at the sign that it is written with only if none
that is searched for earlier occurs behind that.  A quoted literal therefore stands for
its content exactly if it holds no such sign; one that does is split inside, and then
two pieces of the condition itself are compared, whatever the context is.
-/

namespace Stencil

namespace Comparison

variable {sign other : Comparison} {path : Text}

theorem sign_ne_nil (sign : Comparison) : sign.sign ≠ [] := by
  cases sign <;> decide

theorem mem_sign {char : Char} (member : char ∈ sign.sign) : char = '=' ∨ char = '!' := by
  have marks : sign.sign.all (fun mark => mark = '=' ∨ mark = '!') = true := by
    cases sign <;> decide
  exact Text.forall_of_all marks char member

theorem not_mem_sign_of_isQuote {quote : Char} (isQuote : Arguments.isQuote quote = true) :
    quote ∉ sign.sign := by
  intro member
  rcases mem_sign member with rfl | rfl
  · exact absurd isQuote (by decide)
  · exact absurd isQuote (by decide)

theorem not_mem_sign_of_isPathChar {char : Char} (isPath : Text.isPathChar char = true) :
    char ∉ sign.sign := by
  intro member
  have outside := Text.not_mem_separators_of_isPathChar isPath
  rcases mem_sign member with rfl | rfl
  · exact outside (by decide)
  · exact outside (by decide)

theorem not_infix_path (isPath : path.all Text.isPathChar = true) : ¬ sign.sign <:+: path := by
  intro inside
  obtain ⟨char, first⟩ := List.exists_mem_of_ne_nil _ sign.sign_ne_nil
  exact not_mem_sign_of_isPathChar (List.all_eq_true.mp isPath char (inside.subset first)) first

/-- The comparisons that a condition is searched for before one. -/
def earlier (sign : Comparison) : List Comparison :=
  all.takeWhile (· ≠ sign)

theorem exists_all_eq (sign : Comparison) : ∃ later, all = sign.earlier ++ sign :: later := by
  cases sign
  · exact ⟨[strictlyUnequal, equal, unequal], by decide⟩
  · exact ⟨[equal, unequal], by decide⟩
  · exact ⟨[unequal], by decide⟩
  · exact ⟨[], by decide⟩

theorem not_infix_sign (before : other ∈ sign.earlier) : ¬ other.sign <:+: sign.sign := by
  have apart : ∀ other ∈ sign.earlier, ¬ other.sign <:+: sign.sign := by
    cases sign <;> decide
  exact apart other before

/-- The comparison whose sign is found in what follows the sign of another one before
that is searched for, with what stands before and after it. -/
def mistaken? (sign : Comparison) (text : Text) : Option (Comparison × Text × Text) :=
  sign.earlier.findSome? fun other => (Text.cut? other.sign text).map (other, ·)

theorem mistaken?_eq_none_iff {text : Text} :
    sign.mistaken? text = none ↔ ∀ other ∈ sign.earlier, ¬ other.sign <:+: text := by
  simp only [mistaken?, List.findSome?_eq_none_iff, Option.map_eq_none_iff, Text.cut?_eq_none_iff]

theorem of_mistaken? {text before after : Text}
    (found : sign.mistaken? text = some (other, before, after)) :
    other ∈ sign.earlier ∧ text = before ++ other.sign ++ after := by
  obtain ⟨candidate, member, cut⟩ := List.exists_of_findSome?_eq_some found
  obtain ⟨⟨_, _⟩, here, same⟩ := Option.map_eq_some_iff.mp cut
  cases same
  exact ⟨member, Text.eq_append_of_cut? here⟩

theorem mistaken?_eq_map {text longer : Text} {change : Text × Text → Text × Text}
    (alike : ∀ other ∈ sign.earlier,
      Text.cut? other.sign longer = (Text.cut? other.sign text).map change) :
    sign.mistaken? longer = (sign.mistaken? text).map (Prod.map id change) := by
  rw [mistaken?, mistaken?, List.map_findSome?]
  generalize sign.earlier = comparisons at alike
  induction comparisons with
  | nil => rfl
  | cons other later ih =>
      have here := alike other List.mem_cons_self
      have behind := ih fun next member => alike next (List.mem_cons_of_mem other member)
      simp only [List.findSome?_cons, here, behind, Function.comp_apply, Option.map_map]
      rfl

def written (sign : Comparison) (left right : Text) : Text :=
  left ++ ' ' :: (sign.sign ++ ' ' :: right)

theorem written_eq (sign : Comparison) (left right : Text) :
    sign.written left right = (left ++ ' ' :: sign.sign) ++ ' ' :: right := by
  rw [written, List.append_assoc, List.cons_append]

theorem blank_not_mem_sign (sign : Comparison) : ' ' ∉ sign.sign := by
  cases sign <;> decide

/-- A written comparison is split at its sign, or at an earlier one behind that. -/
theorem find?_written (sign : Comparison) (isPath : path.all Text.isPathChar = true)
    (right : Text) :
    find? (sign.written path right) =
      ((sign.mistaken? right).map (Prod.map id (Prod.map (sign.written path) id))).or
        (some (sign, path ++ [' '], ' ' :: right)) := by
  have ownCut : Text.cut? sign.sign (sign.written path right) =
      some (path ++ [' '], ' ' :: right) := by
    rw [written, Text.cut?_append_cons sign.sign_ne_nil sign.blank_not_mem_sign
      (not_infix_path isPath), Text.cut?_self_append]
    rfl
  have passed : ∀ other ∈ sign.earlier,
      Text.cut? other.sign (sign.written path right) =
        (Text.cut? other.sign right).map (Prod.map (sign.written path) id) := by
    intro other before
    -- No earlier sign is part of this one, and the blank keeps it apart from the path.
    have apart : ¬ other.sign <:+: path ++ ' ' :: sign.sign := by
      rw [← Text.cut?_eq_none_iff, Text.cut?_append_cons other.sign_ne_nil other.blank_not_mem_sign
        (not_infix_path isPath), Text.cut?_eq_none_iff.mpr (not_infix_sign before)]
      rfl
    rw [written_eq, Text.cut?_append_cons other.sign_ne_nil other.blank_not_mem_sign apart]
    congr 1
    funext parts
    rw [Prod.map, written_eq, id]
  have earlierFound := mistaken?_eq_map passed
  obtain ⟨later, inOrder⟩ := sign.exists_all_eq
  rw [find?, inOrder, List.findSome?_append, List.findSome?_cons, ownCut]
  rw [mistaken?] at earlierFound
  rw [earlierFound]
  rfl

/-- Whether a comparison asks for a difference. -/
def isNegated : Comparison → Bool
  | strictlyUnequal | unequal => true
  | strictlyEqual | equal => false

theorem holds_text (sign : Comparison) (left right : Text) :
    sign.holds (.text left) (.text right) = .ok (decide (left = right) != sign.isNegated) := by
  cases sign <;> simp [holds, isNegated, Value.strictEquals, Value.looseEquals_eq, Value.isMissing,
    Value.isText, Value.equal, Except.map]

end Comparison

namespace Condition

variable {path right : Text}

theorem isNegated_path (named : path ≠ []) (isPath : path.all Text.isPathChar = true)
    (rest : Text) : isNegated (path ++ rest) = false := by
  cases path with
  | nil => exact absurd rfl named
  | cons char path =>
      have outside := Text.not_mem_separators_of_isPathChar
        (List.all_eq_true.mp isPath char List.mem_cons_self)
      have noMark : char ≠ '!' := by
        rintro rfl
        exact outside (by decide)
      simp [isNegated, noMark]

/-- What the header of a written comparison with a path on the left stands for. -/
theorem ofText_written (sign : Comparison) (named : path ≠ [])
    (isPath : path.all Text.isPathChar = true) (whole : right ≠ [])
    (last : ∀ char ∈ right.getLast?, Text.isBlank char = false) :
    ofText (sign.written path right) =
      match sign.mistaken? right with
      | some (other, before, after) =>
          comparison other (Text.trim (sign.written path before)) (Text.trim after)
      | none => comparison sign path (Text.trim right) := by
  have first := Text.head?_isBlank_of_isPathChar isPath
  have trimmed : Text.trim (sign.written path right) = sign.written path right := by
    apply Text.trim_eq_self
    · rwa [Comparison.written, List.head?_append_of_ne_nil path named]
    · rwa [Comparison.written_eq, List.getLast?_append_of_ne_nil _ (List.cons_ne_nil ' ' right),
        ← List.singleton_append, List.getLast?_append_of_ne_nil _ whole]
  have left : Text.trim ([] ++ path ++ [' ']) = path :=
    Text.trim_between named first (Text.getLast?_isBlank_of_isPathChar isPath) (by simp)
      (Text.forall_of_all (by decide))
  have behind : Text.trim (' ' :: right) = Text.trim right := by
    rw [Text.trim, Text.trim, Text.trimLeft, List.dropWhile_cons_of_pos (by decide), Text.trimLeft]
  have noNegation : isNegated (sign.written path right) = false := isNegated_path named isPath _
  rw [ofText, trimmed, noNegation, Comparison.find?_written sign isPath]
  cases sign.mistaken? right with
  | none =>
      rw [List.nil_append] at left
      simp [left, behind]
  | some found => rfl

theorem operand_of_isQuote {quote : Char} (isQuote : Arguments.isQuote quote = true) {text : Text}
    (member : quote ∈ text) (unpaired : Arguments.isQuoted text = false) {context : Entries}
    (unquoted : Value.haveUnquotedKeys context = true) : operand true context text = .text text := by
  rw [operand, Entries.resolve_of_isQuote isQuote member unquoted, Arguments.unquote, unpaired]
  rfl

end Condition

/-- A comparison of a path with a literal between quotes that it does not hold. -/
structure QuotedComparison where
  path : Text
  sign : Comparison
  quote : Char
  literal : Text
  isPath : path ≠ [] ∧ path.all Text.isPathChar = true
  isQuoted : Arguments.isQuote quote = true ∧ quote ∉ literal

namespace QuotedComparison

variable (comparison : QuotedComparison)

def quoted : Text :=
  comparison.quote :: (comparison.literal ++ [comparison.quote])

def header : Text :=
  comparison.sign.written comparison.path comparison.quoted

/-- The comparison of what the path stands for, or of the path itself if it stands for
nothing, with the literal. -/
def meaning (context : Entries) : Except Fault Bool :=
  let left := match Entries.resolve comparison.path context with
    | .undefined => .text comparison.path
    | value => value
  comparison.sign.holds left (.text comparison.literal)

theorem mistaken?_quoted : comparison.sign.mistaken? comparison.quoted =
    (comparison.sign.mistaken? comparison.literal).map
      (Prod.map id (Prod.map (comparison.quote :: ·) (· ++ [comparison.quote]))) := by
  have inside : ∀ other ∈ comparison.sign.earlier,
      Text.cut? other.sign comparison.quoted =
        (Text.cut? other.sign comparison.literal).map
          (Prod.map (comparison.quote :: ·) (· ++ [comparison.quote])) := by
    intro other _
    have absent : comparison.quote ∉ other.sign :=
      Comparison.not_mem_sign_of_isQuote comparison.isQuoted.1
    have nowhere : ¬ other.sign <:+: [] := fun inside => other.sign_ne_nil (List.infix_nil.mp inside)
    have opened := Text.cut?_append_cons other.sign_ne_nil absent nowhere
      (comparison.literal ++ [comparison.quote])
    rw [List.nil_append] at opened
    rw [quoted, opened, Text.cut?_concat other.sign_ne_nil absent, Option.map_map]
    rfl
  exact Comparison.mistaken?_eq_map inside

theorem isBlank_quote : Text.isBlank comparison.quote = false :=
  Arguments.isBlank_of_isQuote comparison.isQuoted.1

/-- A condition is split at its sign, or at an earlier one in the literal. -/
theorem ofText_header : Condition.ofText comparison.header =
    match comparison.sign.mistaken? comparison.literal with
    | some (other, before, after) =>
        .comparison other
          (Text.trim (comparison.sign.written comparison.path (comparison.quote :: before)))
          (Text.trim (after ++ [comparison.quote]))
    | none => .comparison comparison.sign comparison.path comparison.quoted := by
  have whole : comparison.quoted ≠ [] := List.cons_ne_nil _ _
  have last : ∀ char ∈ comparison.quoted.getLast?, Text.isBlank char = false := by
    have final : comparison.quoted.getLast? = some comparison.quote := by
      rw [quoted, ← List.cons_append]
      exact List.getLast?_concat
    simp [final, comparison.isBlank_quote]
  have trimmed : Text.trim comparison.quoted = comparison.quoted :=
    Text.trim_eq_self (by simp [quoted, comparison.isBlank_quote]) last
  rw [header, Condition.ofText_written comparison.sign comparison.isPath.1 comparison.isPath.2
    whole last, mistaken?_quoted, trimmed]
  cases comparison.sign.mistaken? comparison.literal with
  | none => rfl
  | some found => rfl

theorem isQuote_path (rest : Text) :
    ∀ char ∈ (comparison.path ++ rest).head?, Arguments.isQuote char = false := by
  intro char first
  rw [List.head?_append_of_ne_nil _ comparison.isPath.1] at first
  have isPath := List.all_eq_true.mp comparison.isPath.2 char (List.mem_of_mem_head? first)
  exact Arguments.isQuote_eq_false (Text.not_mem_separators_of_isPathChar isPath)

theorem operand_path (context : Entries) :
    Condition.operand true context comparison.path =
      match Entries.resolve comparison.path context with
      | .undefined => .text comparison.path
      | value => value := by
  have unpaired := Arguments.isQuoted_eq_false (comparison.isQuote_path [])
  rw [List.append_nil] at unpaired
  rw [Condition.operand, Arguments.unquote, unpaired]
  rfl

theorem operand_quoted {context : Entries} (unquoted : context.isUnquoted = true) :
    Condition.operand true context comparison.quoted = .text comparison.literal := by
  rw [Condition.operand, quoted, Entries.resolve_quoted comparison.isQuoted.1 _ unquoted,
    Arguments.unquote_between comparison.isQuoted.1]
  rfl

/-- Without an earlier sign in the literal the comparison is what it is meant to be. -/
theorem holds_of_unmistaken (unmistaken : ∀ other ∈ comparison.sign.earlier,
      ¬ other.sign <:+: comparison.literal)
    {context : Entries} (unquoted : context.isUnquoted = true) :
    (Condition.ofText comparison.header).holds true context = comparison.meaning context := by
  rw [ofText_header, Comparison.mistaken?_eq_none_iff.mpr unmistaken]
  change comparison.sign.holds _ _ = _
  rw [operand_path, comparison.operand_quoted unquoted]
  rfl

variable {comparison}

theorem isQuoted_left (before : Text) : Arguments.isQuoted
    (Text.trim (comparison.sign.written comparison.path (comparison.quote :: before))) = false := by
  have first := Text.head?_isBlank_of_isPathChar comparison.isPath.2
  rw [Comparison.written, Text.trim_append comparison.isPath.1 first
    (by simp [comparison.isBlank_quote])]
  exact Arguments.isQuoted_eq_false (comparison.isQuote_path _)

theorem isQuoted_right {other : Comparison} {before after : Text}
    (mistaken : comparison.sign.mistaken? comparison.literal = some (other, before, after)) :
    Arguments.isQuoted (Text.trim (after ++ [comparison.quote])) = false := by
  obtain ⟨_, whole⟩ := Comparison.of_mistaken? mistaken
  have outside : comparison.quote ∉ Text.trimLeft after := by
    intro member
    have later := (List.dropWhile_suffix Text.isBlank).subset member
    apply comparison.isQuoted.2
    rw [whole]
    exact List.mem_append_right _ later
  rw [Text.trim_concat comparison.isBlank_quote]
  exact Arguments.isQuoted_concat outside

/-- Each piece of a condition that is split inside its literal has one of the quotes, so
it is no name and keeps that quote. -/
theorem holds_of_mistaken {other : Comparison} {before after : Text}
    (mistaken : comparison.sign.mistaken? comparison.literal = some (other, before, after))
    {context : Entries} (unquoted : Value.haveUnquotedKeys context = true) :
    (Condition.ofText comparison.header).holds true context =
      other.holds
        (.text (Text.trim (comparison.sign.written comparison.path (comparison.quote :: before))))
        (.text (Text.trim (after ++ [comparison.quote]))) := by
  have inLeft : comparison.quote ∈
      comparison.sign.written comparison.path (comparison.quote :: before) := by
    simp [Comparison.written]
  have inRight : comparison.quote ∈ after ++ [comparison.quote] := by simp
  have left := Condition.operand_of_isQuote comparison.isQuoted.1
    (Text.mem_trim comparison.isBlank_quote inLeft) (isQuoted_left before) unquoted
  have right := Condition.operand_of_isQuote comparison.isQuoted.1
    (Text.mem_trim comparison.isBlank_quote inRight) (isQuoted_right mistaken) unquoted
  rw [ofText_header, mistaken]
  change other.holds _ _ = _
  rw [left, right]

theorem meaning_binding (content : Text) :
    comparison.meaning (Entries.binding comparison.path (.text content)) =
      .ok (decide (content = comparison.literal) != comparison.sign.isNegated) := by
  rw [meaning, Entries.resolve_binding]
  exact comparison.sign.holds_text content comparison.literal

/-- A condition that is split inside its literal does not follow what its path stands
for. -/
theorem exists_holds_ne_meaning {other : Comparison} (before : other ∈ comparison.sign.earlier)
    (inside : other.sign <:+: comparison.literal) :
    ∃ context : Entries, Value.haveUnquotedKeys context = true ∧
      (Condition.ofText comparison.header).holds true context ≠ comparison.meaning context := by
  by_contra always
  simp only [not_exists, not_and, not_not] at always
  have unquoted : ∀ content : Text,
      Value.haveUnquotedKeys (Entries.binding comparison.path (.text content)) = true :=
    fun content => Entries.haveUnquotedKeys_binding comparison.isPath.2 rfl
  have found : ∃ split, comparison.sign.mistaken? comparison.literal = some split := by
    rw [← Option.ne_none_iff_exists']
    exact fun none => Comparison.mistaken?_eq_none_iff.mp none other before inside
  obtain ⟨⟨split, front, rest⟩, mistaken⟩ := found
  -- The outcome is the same for the literal and for the empty text, but what is meant is not.
  have nonempty : [] ≠ comparison.literal := by
    intro empty
    rw [← empty, List.infix_nil] at inside
    exact other.sign_ne_nil inside
  have same : comparison.meaning (Entries.binding comparison.path (.text comparison.literal)) =
      comparison.meaning (Entries.binding comparison.path (.text [])) := by
    rw [← always _ (unquoted comparison.literal), ← always _ (unquoted []),
      holds_of_mistaken mistaken (unquoted comparison.literal),
      holds_of_mistaken mistaken (unquoted [])]
  rw [meaning_binding, meaning_binding, decide_eq_true rfl, decide_eq_false nonempty] at same
  cases negated : comparison.sign.isNegated with
  | false =>
      rw [negated] at same
      exact absurd same (by simp)
  | true =>
      rw [negated] at same
      exact absurd same (by simp)

/-- A quoted literal without a sign that is searched for earlier stands for its content
in every context without quotes in its keys.  One with such a sign is split there, and two
texts are compared that do not depend on the context.  So the quotes keep a literal whole
in all contexts exactly if it has no such sign. -/
theorem holds_header (comparison : QuotedComparison) :
    ((∀ other ∈ comparison.sign.earlier, ¬ other.sign <:+: comparison.literal) →
      ∀ context : Entries, context.isUnquoted = true →
        (Condition.ofText comparison.header).holds true context = comparison.meaning context) ∧
    (∀ (other : Comparison) (before after : Text),
      comparison.sign.mistaken? comparison.literal = some (other, before, after) →
      ∀ context : Entries, Value.haveUnquotedKeys context = true →
        (Condition.ofText comparison.header).holds true context =
          other.holds
            (.text (Text.trim (comparison.sign.written comparison.path (comparison.quote :: before))))
            (.text (Text.trim (after ++ [comparison.quote])))) ∧
    ((∀ context : Entries, Value.haveUnquotedKeys context = true →
        (Condition.ofText comparison.header).holds true context = comparison.meaning context) ↔
      ∀ other ∈ comparison.sign.earlier, ¬ other.sign <:+: comparison.literal) := by
  refine ⟨?whole, ?split, ?both⟩
  case whole =>
    intro unmistaken context unquoted
    exact comparison.holds_of_unmistaken unmistaken unquoted
  case split =>
    intro other before after mistaken context unquoted
    exact holds_of_mistaken mistaken unquoted
  case both =>
    constructor
    · intro always other before inside
      obtain ⟨context, unquoted, differs⟩ := exists_holds_ne_meaning before inside
      exact differs (always context unquoted)
    · intro unmistaken context unquoted
      exact comparison.holds_of_unmistaken unmistaken
        (Entries.isUnquoted_of_haveUnquotedKeys unquoted)

/-- The comparison of `a` with the literal `b===c`. -/
def withTripleSign (sign : Comparison) : QuotedComparison where
  path := ['a']
  sign := sign
  quote := '"'
  literal := ['b', '=', '=', '=', 'c']
  isPath := by decide
  isQuoted := by decide

def tripleContext : Entries :=
  [(.text ['a'], .text ['b', '=', '=', '=', 'c'])]

/-- The name is strictly equal to the literal, as it is meant to be.  Compared loosely,
the condition is split inside the literal, so that they are told apart. -/
theorem holds_header_tripleSign :
    (∀ other ∈ Comparison.strictlyEqual.earlier,
      ¬ other.sign <:+: (withTripleSign .strictlyEqual).literal) ∧
    tripleContext.isUnquoted = true ∧
    (Condition.ofText (withTripleSign .strictlyEqual).header).holds true tripleContext = .ok true ∧
    (withTripleSign .equal).sign.mistaken? (withTripleSign .equal).literal =
      some (.strictlyEqual, ['b'], ['c']) ∧
    Value.haveUnquotedKeys tripleContext = true ∧
    (withTripleSign .equal).meaning tripleContext = .ok true ∧
    (Condition.ofText (withTripleSign .equal).header).holds true tripleContext = .ok false := by
  obtain ⟨whole, _, _⟩ := holds_header (withTripleSign .strictlyEqual)
  obtain ⟨_, split, _⟩ := holds_header (withTripleSign .equal)
  have unmistaken : ∀ other ∈ Comparison.strictlyEqual.earlier,
      ¬ other.sign <:+: (withTripleSign .strictlyEqual).literal := by decide
  have mistaken : (withTripleSign .equal).sign.mistaken? (withTripleSign .equal).literal =
      some (.strictlyEqual, ['b'], ['c']) := by decide
  refine ⟨unmistaken, rfl, ?_, mistaken, rfl, by decide, ?_⟩
  · rw [whole unmistaken tripleContext rfl]
    decide
  · rw [split _ _ _ mistaken tripleContext rfl]
    decide

end QuotedComparison

end Stencil
