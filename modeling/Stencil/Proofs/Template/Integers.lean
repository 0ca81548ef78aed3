import Stencil.Proofs.Number.Numeral
import Stencil.Proofs.Template.Comparison

/-!
# Comparisons of integers

The loose equality of two integers, and of an integer with a numeral, is the equality of
the integers that they are rounded to.  So it tells an integer from all others exactly if
no other one is rounded to the same, which is so below `2 ^ 53`, and from there up to
`2 ^ 54` for twice the odd ones; integers that no floating-point number stands for cannot
be compared.  A block with such a condition selects its branch accordingly.
-/

namespace Stencil

open Binary64 (limit nearestInt)

namespace Value

theorem looseEquals_int (first second : Int) :
    (int first).looseEquals (int second) =
      if limit ≤ first.natAbs ∨ limit ≤ second.natAbs then .error .integerTooLarge
      else .ok (decide (nearestInt first = nearestInt second)) := by
  have asNumbers : (int first).looseEquals (int second) =
      equalAsNumbers (int first) (int second) := looseEquals_eq _ _
  rw [asNumbers, equalAsNumbers]
  rcases toBinary64_int_cases first with ⟨below, left, found, isFirst⟩ | ⟨beyond, fails⟩
  · rcases toBinary64_int_cases second with ⟨below', right, found', isSecond⟩ | ⟨beyond, fails⟩
    · rw [found, found', if_neg (by omega)]
      exact congrArg Except.ok (Binary64.same_of_equalsInt isFirst isSecond)
    · rw [found, fails, if_pos (.inr beyond)]
      rfl
  · rw [fails, if_pos (.inl beyond)]
    rfl

theorem looseEquals_numeral (first second : Int) :
    (int first).looseEquals (text (Text.ofInt second)) =
      if limit ≤ first.natAbs then .error .integerTooLarge
      else .ok (decide (nearestInt first = nearestInt second)) := by
  have asNumbers : (int first).looseEquals (text (Text.ofInt second)) =
      equalAsNumbers (int first) (text (Text.ofInt second)) := looseEquals_eq _ _
  rw [asNumbers, equalAsNumbers, toBinary64_numeral]
  rcases toBinary64_int_cases first with ⟨below, left, found, isFirst⟩ | ⟨beyond, fails⟩
  · rw [found, if_neg (by omega)]
    rcases Binary64.ofQuotient_whole (second < 0) second.natAbs with
      ⟨_, isSecond⟩ | ⟨beyond, infinite⟩
    · exact congrArg Except.ok (Binary64.same_of_equalsInt isFirst isSecond)
    · -- A finite number is not infinite, and what it is rounded to is not as large.
      have differs : nearestInt first ≠ nearestInt second := by
        intro same
        have sizes := congrArg Int.natAbs same
        rw [Binary64.natAbs_nearestInt, Binary64.natAbs_nearestInt] at sizes
        rw [Binary64.limit_le_iff, ← sizes, ← Binary64.limit_le_iff] at beyond
        omega
      rw [infinite, decide_eq_false differs]
      cases left with
      | infinite => exact absurd isFirst (by simp [Binary64.equalsInt])
      | finite => rfl
  · rw [fails, if_pos beyond]
    rfl

variable {number : Int} {compare : Int → Except Fault Bool}

/-- What is told apart from all comparable integers is rounded to what no other one is
rounded to. -/
theorem nearestInt_injective_of_exact
    (rounded : ∀ other : Int, other.natAbs < limit →
      compare other = if limit ≤ number.natAbs then .error .integerTooLarge
        else .ok (decide (nearestInt number = nearestInt other)))
    (exact : ∀ other : Int, other.natAbs < limit → compare other = .ok (decide (number = other)))
    (other : Int) (same : nearestInt number = nearestInt other) : number = other := by
  have large := Binary64.two_pow_le_limit
  have below : number.natAbs < limit := by
    by_contra beyond
    have zero := rounded 0 (by omega)
    rw [exact 0 (by omega), if_pos (by omega)] at zero
    cases zero
  have sizes := congrArg Int.natAbs same
  rw [Binary64.natAbs_nearestInt, Binary64.natAbs_nearestInt] at sizes
  have otherBelow : other.natAbs < limit := by
    rw [← Nat.not_le, Binary64.limit_le_iff, ← sizes, ← Binary64.limit_le_iff]
    omega
  have outcome := rounded other otherBelow
  rw [exact other otherBelow, if_neg (by omega), decide_eq_true same] at outcome
  exact of_decide_eq_true (Except.ok.inj outcome)

theorem looseEquals_int_exact_iff :
    (∀ other : Int, other.natAbs < limit →
        (int number).looseEquals (int other) = .ok (decide (number = other))) ↔
      number.natAbs < 2 ^ 53 ∨ (number.natAbs < 2 ^ 54 ∧ number.natAbs % 4 = 2) := by
  constructor
  · intro exact
    rw [← Binary64.nearestInt_injective_iff]
    apply nearestInt_injective_of_exact _ exact
    intro other below
    have comparable : ¬ limit ≤ other.natAbs := by omega
    simp only [looseEquals_int, comparable, or_false]
  · intro small other below
    have large := Binary64.two_pow_le_limit
    have alike : nearestInt number = nearestInt other ↔ number = other :=
      ⟨Binary64.nearestInt_injective_iff.mpr small other, congrArg nearestInt⟩
    rw [looseEquals_int, if_neg (by omega), decide_eq_decide.mpr alike]

theorem looseEquals_numeral_exact_iff :
    (∀ other : Int,
        (int number).looseEquals (text (Text.ofInt other)) = .ok (decide (number = other))) ↔
      number.natAbs < 2 ^ 53 ∨ (number.natAbs < 2 ^ 54 ∧ number.natAbs % 4 = 2) := by
  constructor
  · intro exact
    rw [← Binary64.nearestInt_injective_iff]
    apply nearestInt_injective_of_exact _ fun other _ => exact other
    exact fun other _ => looseEquals_numeral number other
  · intro small other
    have large := Binary64.two_pow_le_limit
    have alike : nearestInt number = nearestInt other ↔ number = other :=
      ⟨Binary64.nearestInt_injective_iff.mpr small other, congrArg nearestInt⟩
    rw [looseEquals_numeral, if_neg (by omega), decide_eq_decide.mpr alike]

end Value

namespace Condition

theorem ofText_equal {left right : Text} (isLeft : left ≠ [] ∧ left.all Text.isPathChar = true)
    (whole : right ≠ []) (solid : ∀ char ∈ right, Text.isBlank char = false)
    (plain : ∀ char ∈ right, char ≠ '=') :
    ofText (Comparison.equal.written left right) = comparison .equal left right := by
  have last : ∀ char ∈ right.getLast?, Text.isBlank char = false :=
    fun char last => solid char (List.mem_of_mem_getLast? last)
  have trimmed : Text.trim right = right :=
    Text.trim_eq_self (fun char first => solid char (List.mem_of_mem_head? first)) last
  have unmistaken : Comparison.equal.mistaken? right = none := by
    rw [Comparison.mistaken?_eq_none_iff]
    intro other _ inside
    have hasMark : '=' ∈ other.sign := by cases other <;> decide
    exact plain '=' (inside.subset hasMark) rfl
  rw [ofText_written .equal isLeft.1 isLeft.2 whole last, unmistaken, trimmed]

theorem branch_eq_map (literalFallback : Bool) (context : Entries) (block : Block) :
    branch literalFallback context block =
      ((ofText block.header).holds literalFallback context).map fun holds =>
        if holds then block.body else block.alternative?.getD [] := by
  rw [branch]
  cases (ofText block.header).holds literalFallback context with
  | error fault => rfl
  | ok holds => cases holds <;> rfl

theorem operand_int {literalFallback : Bool} {context : Entries} {path : Text} {number : Int}
    (bound : Entries.resolve path context = .int number) :
    operand literalFallback context path = .int number := by
  rw [operand, bound]

theorem operand_numeral {context : Entries} {number : Int}
    (free : Entries.resolve (Text.ofInt number) context = .undefined) :
    operand true context (Text.ofInt number) = .text (Text.ofInt number) := by
  have noQuote : ∀ char ∈ '-' :: Text.decimalDigits, Arguments.isQuote char = false :=
    Text.forall_of_all (by decide)
  have unpaired : Arguments.isQuoted (Text.ofInt number) = false :=
    Arguments.isQuoted_eq_false fun char first =>
      noQuote char (Text.mem_of_mem_ofInt (List.mem_of_mem_head? first))
  rw [operand, free, Arguments.unquote, unpaired]
  rfl

variable {context : Entries} {block : Block} {left right : Text} {first second : Int}

theorem branch_integers (literalFallback : Bool)
    (isLeft : left ≠ [] ∧ left.all Text.isPathChar = true)
    (isRight : right ≠ [] ∧ right.all Text.isPathChar = true)
    (header : block.header = Comparison.equal.written left right)
    (isFirst : Entries.resolve left context = .int first)
    (isSecond : Entries.resolve right context = .int second) :
    branch literalFallback context block =
      if limit ≤ first.natAbs ∨ limit ≤ second.natAbs then .error .integerTooLarge
      else .ok (if nearestInt first = nearestInt second then block.body
        else block.alternative?.getD []) := by
  have solid : ∀ char ∈ right, Text.isBlank char = false := fun char member =>
    Text.isBlank_of_isPathChar (List.all_eq_true.mp isRight.2 char member)
  have plain : ∀ char ∈ right, char ≠ '=' := by
    rintro char member rfl
    exact Text.not_mem_separators_of_isPathChar (List.all_eq_true.mp isRight.2 _ member) (by decide)
  rw [branch_eq_map, header, ofText_equal isLeft isRight.1 solid plain, holds, operand_int isFirst,
    operand_int isSecond, Comparison.holds, Value.looseEquals_int]
  split
  · rfl
  · simp only [Except.map, decide_eq_true_eq]

theorem branch_numeral (isLeft : left ≠ [] ∧ left.all Text.isPathChar = true)
    (header : block.header = Comparison.equal.written left (Text.ofInt second))
    (isFirst : Entries.resolve left context = .int first)
    (free : Entries.resolve (Text.ofInt second) context = .undefined) :
    branch true context block =
      if limit ≤ first.natAbs then .error .integerTooLarge
      else .ok (if nearestInt first = nearestInt second then block.body
        else block.alternative?.getD []) := by
  have noSign : ∀ char ∈ '-' :: Text.decimalDigits, char ≠ '=' :=
    Text.forall_of_all (by decide)
  have plain : ∀ char ∈ Text.ofInt second, char ≠ '=' := fun char member =>
    noSign char (Text.mem_of_mem_ofInt member)
  rw [branch_eq_map, header, ofText_equal isLeft (Text.ofInt_ne_nil second)
    (fun _ => Text.isBlank_of_mem_ofInt) plain, holds, operand_int isFirst, operand_numeral free,
    Comparison.holds, Value.looseEquals_numeral]
  split
  · rfl
  · simp only [Except.map, decide_eq_true_eq]

/-- The loose equality of an integer with another one or with a numeral, and the branch
that a block with such a condition selects, follow what the two are rounded to.  An integer
is told from all others exactly if it is below `2 ^ 53`, or below `2 ^ 54` and twice an odd
one. -/
theorem integers_compare_rounded (first second : Int) :
    (Value.int first).looseEquals (.int second) =
      (if limit ≤ first.natAbs ∨ limit ≤ second.natAbs then .error .integerTooLarge
        else .ok (decide (nearestInt first = nearestInt second))) ∧
    (Value.int first).looseEquals (.text (Text.ofInt second)) =
      (if limit ≤ first.natAbs then .error .integerTooLarge
        else .ok (decide (nearestInt first = nearestInt second))) ∧
    ((∀ other : Int, other.natAbs < limit →
        (Value.int first).looseEquals (.int other) = .ok (decide (first = other))) ↔
      first.natAbs < 2 ^ 53 ∨ (first.natAbs < 2 ^ 54 ∧ first.natAbs % 4 = 2)) ∧
    ((∀ other : Int, (Value.int first).looseEquals (.text (Text.ofInt other)) =
        .ok (decide (first = other))) ↔
      first.natAbs < 2 ^ 53 ∨ (first.natAbs < 2 ^ 54 ∧ first.natAbs % 4 = 2)) ∧
    ∀ (context : Entries) (block : Block) (left : Text),
      left ≠ [] ∧ left.all Text.isPathChar = true → Entries.resolve left context = .int first →
      (∀ (literalFallback : Bool) (right : Text), right ≠ [] ∧ right.all Text.isPathChar = true →
        block.header = Comparison.equal.written left right →
        Entries.resolve right context = .int second →
        branch literalFallback context block =
          if limit ≤ first.natAbs ∨ limit ≤ second.natAbs then .error .integerTooLarge
          else .ok (if nearestInt first = nearestInt second then block.body
            else block.alternative?.getD [])) ∧
      (block.header = Comparison.equal.written left (Text.ofInt second) →
        Entries.resolve (Text.ofInt second) context = .undefined →
        branch true context block =
          if limit ≤ first.natAbs then .error .integerTooLarge
          else .ok (if nearestInt first = nearestInt second then block.body
            else block.alternative?.getD [])) := by
  refine ⟨Value.looseEquals_int first second, Value.looseEquals_numeral first second,
    Value.looseEquals_int_exact_iff, Value.looseEquals_numeral_exact_iff, ?branches⟩
  intro context block left isLeft isFirst
  constructor
  · intro literalFallback right isRight header isSecond
    exact branch_integers literalFallback isLeft isRight header isFirst isSecond
  · intro header free
    exact branch_numeral isLeft header isFirst free

/-- A block that asks whether `x` is what stands on the right. -/
def sameBlock (right : Text) : Block where
  opener := Tag.ifOpening ++ ' ' :: (Comparison.equal.written ['x'] right ++ Tag.closing)
  header := Comparison.equal.written ['x'] right
  body := ['A']
  division := some (Tag.elseTag, ['B'])
  closer := Tag.endifTag

/-- A context in which `x` is `2 ^ 53` and `y` is the integer behind it. -/
def neighbours : Entries :=
  [(.text ['x'], .int 9007199254740992), (.text ['y'], .int 9007199254740993)]

/-- The integer `2 ^ 53` is taken for the one behind it, by name and as a numeral. -/
theorem integers_compare_rounded_neighbours :
    (9007199254740992 : Int).natAbs < limit ∧ (9007199254740993 : Int).natAbs < limit ∧
    Entries.resolve ['x'] neighbours = .int 9007199254740992 ∧
    Entries.resolve ['y'] neighbours = .int 9007199254740993 ∧
    Entries.resolve (Text.ofInt 9007199254740993) neighbours = .undefined ∧
    (Value.int 9007199254740992).looseEquals (.int 9007199254740993) = .ok true ∧
    branch true neighbours (sameBlock ['y']) = .ok ['A'] ∧
    branch true neighbours (sameBlock (Text.ofInt 9007199254740993)) = .ok ['A'] := by
  obtain ⟨integers, _, _, _, branches⟩ :=
    integers_compare_rounded 9007199254740992 9007199254740993
  have large := Binary64.two_pow_le_limit
  have first : (9007199254740992 : Int).natAbs < limit := by omega
  have second : (9007199254740993 : Int).natAbs < limit := by omega
  have alike : nearestInt 9007199254740992 = nearestInt 9007199254740993 := by decide +kernel
  have isFirst : Entries.resolve ['x'] neighbours = .int 9007199254740992 := by decide
  have isSecond : Entries.resolve ['y'] neighbours = .int 9007199254740993 := by decide
  have free : Entries.resolve (Text.ofInt 9007199254740993) neighbours = .undefined := by decide
  obtain ⟨names, _⟩ := branches neighbours (sameBlock ['y']) ['x'] (by decide) isFirst
  obtain ⟨_, numerals⟩ := branches neighbours (sameBlock (Text.ofInt 9007199254740993)) ['x']
    (by decide) isFirst
  refine ⟨first, second, isFirst, isSecond, free, ?_, ?_, ?_⟩
  · rw [integers, if_neg (by omega), decide_eq_true alike]
  · rw [names true ['y'] (by decide) rfl isSecond, if_neg (by omega), if_pos alike]
    rfl
  · rw [numerals rfl free, if_neg (by omega), if_pos alike]
    rfl

end Condition

end Stencil
