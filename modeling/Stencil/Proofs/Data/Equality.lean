import Stencil.Data.Display
import Stencil.Proofs.Data.Identity
import Stencil.Proofs.Number.Whole

/-!
# Laws of the two equalities

The equality of contents and the loose equality do not depend on which value comes
first, and every value has the content that it has.  The strict equality of values
that are no floating-point numbers is sameness, so it is an equivalence; what is
strictly equal is shown alike and loosely equal, unless it is an integer that no
floating-point number stands for.
-/

namespace Stencil

theorem Binary64.same_comm (left right : Binary64) : left.same right = right.same left := by
  cases left <;> cases right <;> simp [same, eq_comm]

theorem Binary64.same_self (number : Binary64) : number.same number = true := by
  cases number <;> simp [same]

theorem Timestamp.same_comm (left right : Timestamp) : left.same right = right.same left := by
  rw [same, same]
  cases left.offset <;> cases right.offset <;> simp [eq_comm]

theorem Timestamp.same_self (stamp : Timestamp) : stamp.same stamp = true := by
  rw [same]
  cases stamp.offset <;> simp

namespace Value

theorem Number.same_comm (left right : Number) : left.same right = right.same left := by
  cases left <;> cases right <;> simp [Number.same, eq_comm, Binary64.same_comm]

theorem sameRange_comm (start stop step start' stop' step' : Int) :
    sameRange start stop step start' stop' step' =
      sameRange start' stop' step' start stop step := by
  simp only [sameRange]
  by_cases length : rangeLength start stop step = rangeLength start' stop' step'
  · simp only [length, eq_comm]
  · simp [length, Ne.symm length]

theorem sameRange_self (start stop step : Int) :
    sameRange start stop step start stop step = true := by
  simp [sameRange]

theorem entriesWithin_iff {lefts rights : List (Value × Value)} :
    entriesWithin lefts rights = true ↔
      ∀ left ∈ lefts, ∃ right ∈ rights,
        equal left.1 right.1 = true ∧ equal left.2 right.2 = true := by
  induction lefts with
  | nil => simp [entriesWithin]
  | cons left lefts ih => simp [entriesWithin, ih]

theorem holdsEntry_iff {lefts : List (Value × Value)} {key value : Value} :
    holdsEntry lefts key value = true ↔
      ∃ left ∈ lefts, equal left.1 key = true ∧ equal left.2 value = true := by
  induction lefts with
  | nil => simp [holdsEntry]
  | cons left lefts ih => simp [holdsEntry, ih]

/-- Mappings have the same content if they have as many entries and each entry of one
is equal to an entry of the other. -/
theorem equal_map_iff {identity identity' : Nat} {readOnly readOnly' : Bool}
    {lefts rights : List (Value × Value)} :
    equal (.map identity readOnly lefts) (.map identity' readOnly' rights) = true ↔
      lefts.length = rights.length ∧
        (∀ left ∈ lefts, ∃ right ∈ rights,
          equal left.1 right.1 = true ∧ equal left.2 right.2 = true) ∧
        ∀ right ∈ rights, ∃ left ∈ lefts,
          equal left.1 right.1 = true ∧ equal left.2 right.2 = true := by
  simp only [equal, Bool.and_eq_true, decide_eq_true_eq, entriesWithin_iff, List.all_eq_true,
    holdsEntry_iff, and_assoc]

/-- Whether a value is equal to the same values from either side. -/
def EqualFromBoth (value : Value) : Prop :=
  ∀ other, equal value other = equal other value

theorem equal_map_comm {lefts : List (Value × Value)}
    (both : ∀ entry ∈ lefts, EqualFromBoth entry.1 ∧ EqualFromBoth entry.2)
    (identity identity' : Nat) (readOnly readOnly' : Bool) (rights : List (Value × Value)) :
    equal (.map identity readOnly lefts) (.map identity' readOnly' rights) =
      equal (.map identity' readOnly' rights) (.map identity readOnly lefts) := by
  have swapped : ∀ left ∈ lefts, ∀ right : Value × Value,
      (equal right.1 left.1 = true ∧ equal right.2 left.2 = true) ↔
        (equal left.1 right.1 = true ∧ equal left.2 right.2 = true) := by
    intro left member right
    obtain ⟨key, value⟩ := both left member
    rw [key, value]
  have leftsFound : (∀ left ∈ lefts, ∃ right ∈ rights,
        equal right.1 left.1 = true ∧ equal right.2 left.2 = true) ↔
      ∀ left ∈ lefts, ∃ right ∈ rights,
        equal left.1 right.1 = true ∧ equal left.2 right.2 = true :=
    forall₂_congr fun left member => exists_congr fun right =>
      and_congr_right fun _ => swapped left member right
  have rightsFound : (∀ right ∈ rights, ∃ left ∈ lefts,
        equal right.1 left.1 = true ∧ equal right.2 left.2 = true) ↔
      ∀ right ∈ rights, ∃ left ∈ lefts,
        equal left.1 right.1 = true ∧ equal left.2 right.2 = true :=
    forall₂_congr fun right _ => exists_congr fun left =>
      and_congr_right fun member => swapped left member right
  rw [Bool.eq_iff_iff, equal_map_iff, equal_map_iff, leftsFound, rightsFound, eq_comm,
    and_comm (a := ∀ left ∈ lefts, _)]

end Value

mutual

theorem Value.equal_comm : ∀ left right : Value, Value.equal left right = Value.equal right left
  | .undefined, right => by cases right <;> simp [Value.equal, Value.number?]
  | .null, right => by cases right <;> simp [Value.equal, Value.number?]
  | .bool _, right => by
      cases right <;> simp [Value.equal, Value.number?, Value.Number.same_comm]
  | .int _, right => by
      cases right <;> simp [Value.equal, Value.number?, Value.Number.same_comm]
  | .float _, right => by
      cases right <;> simp [Value.equal, Value.number?, Value.Number.same_comm]
  | .nan _, right => by cases right <;> simp [Value.equal, Value.number?, eq_comm]
  | .text _, right => by cases right <;> simp [Value.equal, Value.number?, eq_comm]
  | .range .., right => by
      cases right <;> simp [Value.equal, Value.number?, Value.sameRange_comm]
  | .date .., right => by cases right <;> simp [Value.equal, Value.number?, eq_comm]
  | .timestamp .., right => by
      cases right <;> simp [Value.equal, Value.number?, Timestamp.same_comm]
  | .list _ items, right => by
      cases right <;> simp [Value.equal, Value.number?, Value.equalItems_comm items]
  | .tuple _ items, right => by
      cases right <;> simp [Value.equal, Value.number?, Value.equalItems_comm items]
  | .map identity readOnly entries, right => by
      cases right with
      | map => exact Value.equal_map_comm (Value.equalFromBoth_entries entries) ..
      | _ => simp [Value.equal, Value.number?]
termination_by structural left => left

theorem Value.equalItems_comm : ∀ lefts rights : List Value,
    Value.equalItems lefts rights = Value.equalItems rights lefts
  | [], rights => by cases rights <;> simp [Value.equalItems]
  | left :: lefts, rights => by
      cases rights <;> simp [Value.equalItems, Value.equal_comm left, Value.equalItems_comm lefts]
termination_by structural lefts => lefts

theorem Value.equalFromBoth_entries : ∀ entries : List (Value × Value),
    ∀ entry ∈ entries, Value.EqualFromBoth entry.1 ∧ Value.EqualFromBoth entry.2
  | [] => fun _ member => absurd member List.not_mem_nil
  | (key, value) :: entries => by
      intro entry member
      rcases List.mem_cons.mp member with rfl | later
      · exact ⟨Value.equal_comm key, Value.equal_comm value⟩
      · exact Value.equalFromBoth_entries entries entry later
termination_by structural entries => entries

end

mutual

theorem Value.equal_self : ∀ value : Value, Value.equal value value = true
  | .undefined => rfl
  | .null => rfl
  | .bool _ => by simp [Value.equal, Value.number?, Value.Number.same]
  | .int _ => by simp [Value.equal, Value.number?, Value.Number.same]
  | .float number => by simp [Value.equal, Value.number?, Value.Number.same, number.same_self]
  | .nan _ => by simp [Value.equal]
  | .text _ => by simp [Value.equal]
  | .range .. => by simp [Value.equal, Value.sameRange_self]
  | .date .. => by simp [Value.equal]
  | .timestamp _ stamp => by simp [Value.equal, stamp.same_self]
  | .list _ items => by simp [Value.equal, Value.equalItems_self items]
  | .tuple _ items => by simp [Value.equal, Value.equalItems_self items]
  | .map _ _ entries => by
      have alike := Value.equal_self_entries entries
      exact Value.equal_map_iff.mpr ⟨rfl, fun entry member => ⟨entry, member, alike entry member⟩,
        fun entry member => ⟨entry, member, alike entry member⟩⟩
termination_by structural value => value

theorem Value.equalItems_self : ∀ items : List Value, Value.equalItems items items = true
  | [] => rfl
  | item :: items => by
      simp [Value.equalItems, Value.equal_self item, Value.equalItems_self items]
termination_by structural items => items

theorem Value.equal_self_entries : ∀ entries : List (Value × Value),
    ∀ entry ∈ entries, Value.equal entry.1 entry.1 = true ∧ Value.equal entry.2 entry.2 = true
  | [] => fun _ member => absurd member List.not_mem_nil
  | (key, value) :: entries => by
      intro entry member
      rcases List.mem_cons.mp member with rfl | later
      · exact ⟨Value.equal_self key, Value.equal_self value⟩
      · exact Value.equal_self_entries entries entry later
termination_by structural entries => entries

end

namespace Value

def isFloat : Value → Bool
  | float _ | nan _ => true
  | _ => false

/-- The strict equality of two values that are no floating-point numbers is
sameness. -/
theorem strictEquals_iff {left right : Value} (exact : left.isFloat = false)
    (exact' : right.isFloat = false) : left.strictEquals right = true ↔ left = right := by
  cases left <;> cases right <;> simp_all [strictEquals, isFloat]

def isText : Value → Bool
  | text _ => true
  | _ => false

def equalAsNumbers (left right : Value) : Except Fault Bool := do
  let left ← left.toBinary64
  let right ← right.toBinary64
  match left, right with
  | some left, some right => return left.same right
  | _, _ => return false

def equalAsTexts (left right : Value) : Except Fault Bool := do
  let left ← left.display
  let right ← right.display
  return left = right

/-- What the loose equality goes by: values that stand for nothing, texts, numbers, a
text against something else, and content. -/
theorem looseEquals_eq (left right : Value) :
    left.looseEquals right =
      if left.isMissing || right.isMissing then .ok (left.isMissing && right.isMissing)
      else if left.isText && right.isText then .ok (equal left right)
      else if left.isScalar && right.isScalar then equalAsNumbers left right
      else if left.isText || right.isText then equalAsTexts left right
      else .ok (equal left right) := by
  cases left <;> cases right <;> rfl

theorem toBinary64_eq_error {value : Value} {fault : Fault}
    (fails : value.toBinary64 = .error fault) : fault = .integerTooLarge := by
  cases value with
  | int number =>
      rw [toBinary64] at fails
      split at fails
      · cases fails
      · cases fails
        rfl
  | text content =>
      simp only [toBinary64] at fails
      split at fails
      · cases fails
      · split at fails
        · cases fails
        · cases fails
  | _ => cases fails

/-- An integer becomes a number with the value that it is rounded to, unless it is too
large. -/
theorem toBinary64_int_cases (number : Int) :
    (number.natAbs < Binary64.limit ∧ ∃ value, (int number).toBinary64 = .ok (some value) ∧
        value.equalsInt (Binary64.nearestInt number) = true) ∨
      (Binary64.limit ≤ number.natAbs ∧ (int number).toBinary64 = .error .integerTooLarge) := by
  rcases Binary64.ofInt?_cases number with ⟨below, value, found, has⟩ | ⟨beyond, none⟩
  · exact .inl ⟨below, value, by rw [toBinary64, found], has⟩
  · exact .inr ⟨beyond, by rw [toBinary64, none]⟩

theorem equalAsNumbers_comm (left right : Value) :
    equalAsNumbers left right = equalAsNumbers right left := by
  rw [equalAsNumbers, equalAsNumbers]
  cases first : left.toBinary64 with
  | error fault =>
      cases second : right.toBinary64 with
      | error other => rw [toBinary64_eq_error first, toBinary64_eq_error second]
      | ok number => rfl
  | ok number =>
      cases second : right.toBinary64 with
      | error fault => rfl
      | ok other =>
          cases number with
          | none => cases other <;> rfl
          | some number =>
              cases other with
              | none => rfl
              | some other => exact congrArg Except.ok (number.same_comm other)

theorem equalAsTexts_comm {left right : Value} (one : (left.isText || right.isText) = true) :
    equalAsTexts left right = equalAsTexts right left := by
  have whole : ∀ value : Value, value.isText = true → ∃ content, value.display = .ok content := by
    intro value isText
    cases value with
    | text content => exact ⟨content, rfl⟩
    | _ => cases isText
  rw [equalAsTexts, equalAsTexts]
  rcases Bool.or_eq_true_iff.mp one with isText | isText
  · obtain ⟨content, shown⟩ := whole left isText
    rw [shown]
    cases right.display with
    | error fault => rfl
    | ok other => exact congrArg Except.ok (decide_eq_decide.mpr eq_comm)
  · obtain ⟨content, shown⟩ := whole right isText
    rw [shown]
    cases left.display with
    | error fault => rfl
    | ok other => exact congrArg Except.ok (decide_eq_decide.mpr eq_comm)

/-- The loose equality does not depend on which value comes first. -/
theorem looseEquals_comm (left right : Value) :
    left.looseEquals right = right.looseEquals left := by
  rw [looseEquals_eq, looseEquals_eq, Bool.or_comm right.isMissing, Bool.and_comm right.isMissing,
    Bool.and_comm right.isText, Bool.and_comm right.isScalar, Bool.or_comm right.isText,
    equal_comm right, equalAsNumbers_comm right]
  split
  · rfl
  split
  · rfl
  split
  · rfl
  split
  · next one => exact equalAsTexts_comm one
  · rfl

theorem equalAsNumbers_self {value : Value} {number : Binary64}
    (found : value.toBinary64 = .ok (some number)) : equalAsNumbers value value = .ok true := by
  rw [equalAsNumbers, found]
  exact congrArg Except.ok number.same_self

/-- A value that is no floating-point number is loosely equal to itself, unless it is an
integer that no floating-point number stands for. -/
theorem looseEquals_self {value : Value} (exact : value.isFloat = false) :
    value.looseEquals value = .ok true ∨
      ∃ number : Int, value = .int number ∧ Binary64.limit ≤ number.natAbs ∧
        value.looseEquals value = .error .integerTooLarge := by
  have alike : Except.ok (equal value value) = (.ok true : Except Fault Bool) :=
    congrArg Except.ok value.equal_self
  rw [looseEquals_eq]
  cases value with
  | undefined => exact .inl rfl
  | null => exact .inl rfl
  | float => cases exact
  | nan => cases exact
  | bool value =>
      have one : ∃ number, Binary64.ofInt? value.toNat = some number := by
        have small := value.toNat_le
        have below := Binary64.two_pow_le_limit
        rcases Binary64.ofInt?_cases value.toNat with ⟨_, number, found, _⟩ | ⟨beyond, _⟩
        · exact ⟨number, found⟩
        · rw [Int.natAbs_natCast] at beyond
          omega
      obtain ⟨number, found⟩ := one
      exact .inl (equalAsNumbers_self (congrArg Except.ok found))
  | int number =>
      rcases toBinary64_int_cases number with ⟨_, value, converted, _⟩ | ⟨beyond, fails⟩
      · exact .inl (equalAsNumbers_self converted)
      · refine .inr ⟨number, rfl, beyond, ?_⟩
        change equalAsNumbers (int number) (int number) = .error .integerTooLarge
        rw [equalAsNumbers, fails]
        rfl
  | _ => exact .inl alike

/-- Among all values but floating-point numbers the strict equality is an equivalence,
and containers and dates are strictly equal if they have the same identity.  The loose
equality has the same outcome from either side.  What is strictly equal is shown alike
and loosely equal, unless it is an integer that no floating-point number stands for. -/
theorem equality_laws :
    (Equivalence fun left right : {value : Value // value.isFloat = false} =>
      left.1.strictEquals right.1 = true) ∧
    (∀ (root : Value) (next : Nat), firstIdentity ≤ next →
      ∀ left ∈ (root.identify next).1.parts, ∀ right ∈ (root.identify next).1.parts,
        left.identity?.isSome →
          (left.strictEquals right = true ↔ left.identity? = right.identity?)) ∧
    (∀ left right : Value, left.looseEquals right = right.looseEquals left) ∧
    ∀ left right : Value, left.isFloat = false → right.isFloat = false →
      left.strictEquals right = true →
        left.display = right.display ∧
          (left.looseEquals right = .ok true ∨
            ∃ number : Int, left = .int number ∧ Binary64.limit ≤ number.natAbs ∧
              left.looseEquals right = .error .integerTooLarge) := by
  refine ⟨⟨?reflexive, ?symmetric, ?transitive⟩, ?identities, looseEquals_comm, ?consequences⟩
  case reflexive =>
    rintro ⟨value, exact⟩
    exact (strictEquals_iff exact exact).mpr rfl
  case symmetric =>
    rintro ⟨left, exact⟩ ⟨right, exact'⟩ same
    exact (strictEquals_iff exact' exact).mpr ((strictEquals_iff exact exact').mp same).symm
  case transitive =>
    rintro ⟨first, exact⟩ ⟨second, exact'⟩ ⟨third, exact''⟩ same same'
    have alike := (strictEquals_iff exact exact').mp same
    have alike' := (strictEquals_iff exact' exact'').mp same'
    exact (strictEquals_iff exact exact'').mpr (alike.trans alike')
  case identities =>
    intro root next unshared left leftPart right rightPart object
    exact strictEquals_iff_identity root unshared leftPart rightPart object
  case consequences =>
    intro left right exact exact' same
    obtain rfl := (strictEquals_iff exact exact').mp same
    exact ⟨rfl, looseEquals_self exact⟩

/-- A list of two lists with the same content. -/
def pairOfLists : Value :=
  ((list 0 [list 0 [.int 1], list 0 [.int 1]]).identify firstIdentity).1

/-- Two lists with the same content in one list are different objects, and each is
strictly equal to itself alone. -/
theorem equality_laws_lists :
    firstIdentity ≤ firstIdentity ∧
    list 3 [.int 1] ∈ pairOfLists.parts ∧ list 4 [.int 1] ∈ pairOfLists.parts ∧
    (list 3 [.int 1]).identity?.isSome ∧ (list 3 [.int 1]).isFloat = false ∧
    (list 3 [.int 1]).strictEquals (list 3 [.int 1]) = true ∧
    ((list 3 [.int 1]).strictEquals (list 4 [.int 1]) = true ↔
      (list 3 [.int 1]).identity? = (list 4 [.int 1]).identity?) ∧
    (list 3 [.int 1]).display = (list 3 [.int 1]).display ∧
    ((list 3 [.int 1]).looseEquals (list 3 [.int 1]) = .ok true ∨
      ∃ number : Int, list 3 [.int 1] = .int number ∧ Binary64.limit ≤ number.natAbs ∧
        (list 3 [.int 1]).looseEquals (list 3 [.int 1]) = .error .integerTooLarge) := by
  obtain ⟨_, identities, _, consequences⟩ := equality_laws
  have first : list 3 [.int 1] ∈ pairOfLists.parts := by decide
  have second : list 4 [.int 1] ∈ pairOfLists.parts := by decide
  exact ⟨by decide, first, second, rfl, rfl, by decide,
    identities _ firstIdentity (by decide) _ first _ second rfl,
    consequences _ _ rfl rfl (by decide)⟩

end Value

end Stencil
