import Mathlib.Tactic.Ring
import Stencil.Number.Binary64

/-!
# Integers as binary64 numbers

An integer becomes the nearest number with 53 binary digits and zeros behind them,
a tie going to the even digits; up to `2 ^ 53` that is the integer itself.  It becomes
no number if what it is rounded to lies beyond all finite ones.  Two integers are
taken for the same number exactly if they are rounded to the same integer.
-/

namespace Stencil.Binary64

/-- The weight of the last of the 53 binary digits that a magnitude keeps. -/
def lastPlace (magnitude : Nat) : Nat :=
  2 ^ (magnitude.log2 - 52)

/-- The magnitude nearest to another one that has 53 binary digits and zeros behind
them, a tie going to the even digits. -/
def nearest (magnitude : Nat) : Nat :=
  roundQuotient magnitude (lastPlace magnitude) * lastPlace magnitude

def signed (negative : Bool) (magnitude : Nat) : Int :=
  if negative then -(magnitude : Int) else magnitude

/-- The integer nearest to another one that has 53 binary digits and zeros behind
them. -/
def nearestInt (number : Int) : Int :=
  signed (number < 0) (nearest number.natAbs)

def topExponent : Nat := 971

/-- The weight of the last of the 53 binary digits of the largest numbers. -/
def topPlace : Nat :=
  2 ^ topExponent

/-- The least magnitude that is rounded beyond all finite numbers. -/
def limit : Nat :=
  2 ^ 53 * topPlace - topPlace / 2

theorem lastPlace_pos (magnitude : Nat) : 0 < lastPlace magnitude :=
  Nat.two_pow_pos _

section Rounding

variable (numerator denominator : Nat)

theorem roundQuotient_cases :
    (roundQuotient numerator denominator = numerator / denominator ∧
        2 * (numerator % denominator) ≤ denominator ∧
        (2 * (numerator % denominator) = denominator → numerator / denominator % 2 = 0)) ∨
      (roundQuotient numerator denominator = numerator / denominator + 1 ∧
        denominator ≤ 2 * (numerator % denominator) ∧
        (2 * (numerator % denominator) = denominator → numerator / denominator % 2 = 1)) := by
  simp only [roundQuotient, Bool.or_eq_true, Bool.and_eq_true, decide_eq_true_eq]
  split
  · next up => exact .inr ⟨rfl, by omega, by omega⟩
  · next down => exact .inl ⟨rfl, by omega, by omega⟩

theorem roundQuotient_one : roundQuotient numerator 1 = numerator := by
  rcases roundQuotient_cases numerator 1 with ⟨same, _⟩ | ⟨_, near, _⟩
  · rw [same, Nat.div_one]
  · omega

/-- No multiple of the denominator is nearer than the one that a quotient is rounded
to. -/
theorem roundQuotient_nearest {denominator : Nat} (positive : 0 < denominator) (factor : Nat) :
    ((numerator : Int) - (roundQuotient numerator denominator * denominator : Nat)).natAbs ≤
      ((numerator : Int) - (factor * denominator : Nat)).natAbs := by
  have whole : numerator / denominator * denominator + numerator % denominator = numerator :=
    Nat.div_add_mod' numerator denominator
  have rest := Nat.mod_lt numerator positive
  -- Another multiple lies at or below the floor, or at least one step above it.
  have side : factor * denominator ≤ numerator / denominator * denominator ∨
      numerator / denominator * denominator + denominator ≤ factor * denominator := by
    rcases Nat.lt_or_ge (numerator / denominator) factor with above | below
    · right
      rw [← Nat.succ_mul]
      exact Nat.mul_le_mul_right denominator above
    · exact .inl (Nat.mul_le_mul_right denominator below)
  rcases roundQuotient_cases numerator denominator with
    ⟨down, near, _⟩ | ⟨up, near, _⟩
  · rw [down]
    omega
  · rw [up, Nat.succ_mul]
    omega

end Rounding

section Binade

variable {magnitude : Nat}

theorem lastPlace_of_lt (small : magnitude < 2 ^ 53) : lastPlace magnitude = 1 := by
  have digits : magnitude.log2 ≤ 52 := by
    by_cases zero : magnitude = 0
    · simp [zero]
    · have := (Nat.log2_lt zero).mpr small
      omega
  rw [lastPlace, Nat.sub_eq_zero_of_le digits, Nat.pow_zero]

theorem binade (large : 2 ^ 53 ≤ magnitude) :
    2 ^ 52 * lastPlace magnitude ≤ magnitude ∧ magnitude < 2 ^ 53 * lastPlace magnitude ∧
      2 ≤ lastPlace magnitude := by
  have nonzero : magnitude ≠ 0 := by omega
  have digits : 53 ≤ magnitude.log2 := (Nat.le_log2 nonzero).mpr large
  refine ⟨?_, ?_, ?_⟩
  · rw [lastPlace, ← Nat.pow_add, show 52 + (magnitude.log2 - 52) = magnitude.log2 by omega]
    exact Nat.log2_self_le nonzero
  · rw [lastPlace, ← Nat.pow_add, show 53 + (magnitude.log2 - 52) = magnitude.log2 + 1 by omega]
    exact Nat.lt_log2_self
  · exact Nat.le_self_pow (show magnitude.log2 - 52 ≠ 0 by omega) 2

theorem nearest_of_lt (small : magnitude < 2 ^ 53) : nearest magnitude = magnitude := by
  rw [nearest, lastPlace_of_lt small, Nat.mul_one, roundQuotient_one]

/-- The digits that are kept of a magnitude. -/
theorem roundQuotient_bounds (large : 2 ^ 53 ≤ magnitude) :
    2 ^ 52 ≤ roundQuotient magnitude (lastPlace magnitude) ∧
      roundQuotient magnitude (lastPlace magnitude) ≤ 2 ^ 53 := by
  obtain ⟨least, most, _⟩ := binade large
  have low := (Nat.le_div_iff_mul_le (lastPlace_pos magnitude)).mpr least
  have high := (Nat.div_lt_iff_lt_mul (lastPlace_pos magnitude)).mpr most
  rcases roundQuotient_cases magnitude (lastPlace magnitude) with
    ⟨down, _⟩ | ⟨up, _⟩ <;> omega

end Binade

/-- No magnitude with 53 binary digits and zeros behind them is nearer. -/
theorem natAbs_sub_nearest_le (magnitude : Nat) {digits : Nat} (few : digits ≤ 2 ^ 53)
    (zeros : Nat) :
    ((magnitude : Int) - (nearest magnitude : Nat)).natAbs ≤
      ((magnitude : Int) - (digits * 2 ^ zeros : Nat)).natAbs := by
  rcases Nat.lt_or_ge magnitude (2 ^ 53) with small | large
  · rw [nearest_of_lt small]
    omega
  · obtain ⟨least, _, _⟩ := binade large
    rcases Nat.lt_or_ge zeros (magnitude.log2 - 52) with finer | coarser
    · -- With a finer last place there are no more digits than up to the binade.
      have below : digits * 2 ^ zeros ≤ 2 ^ 52 * lastPlace magnitude :=
        calc digits * 2 ^ zeros ≤ 2 ^ 53 * 2 ^ zeros := Nat.mul_le_mul_right _ few
          _ = 2 ^ 52 * 2 ^ (zeros + 1) := by ring
          _ ≤ 2 ^ 52 * lastPlace magnitude :=
            Nat.mul_le_mul_left _ (Nat.pow_le_pow_right (by decide) finer)
      have near := roundQuotient_nearest magnitude (lastPlace_pos magnitude) (2 ^ 52)
      rw [← nearest] at near
      omega
    · have multiple : digits * 2 ^ zeros =
          digits * 2 ^ (zeros - (magnitude.log2 - 52)) * lastPlace magnitude := by
        rw [lastPlace, Nat.mul_assoc, ← Nat.pow_add, Nat.sub_add_cancel coarser]
      rw [multiple]
      exact roundQuotient_nearest magnitude (lastPlace_pos magnitude) _

theorem le_nearest {magnitude digits : Nat} (few : digits ≤ 2 ^ 53) (zeros : Nat)
    (least : digits * 2 ^ zeros ≤ magnitude) : digits * 2 ^ zeros ≤ nearest magnitude := by
  have near := natAbs_sub_nearest_le magnitude few zeros
  omega

theorem le_nearest_iff {magnitude : Nat} : 2 ^ 53 ≤ nearest magnitude ↔ 2 ^ 53 ≤ magnitude := by
  constructor
  · intro large
    by_contra small
    rw [nearest_of_lt (by omega)] at large
    exact small large
  · exact le_nearest (Nat.le_refl _) 0

/-- What is rounded to has 53 binary digits and zeros behind them. -/
theorem exists_nearest_eq (magnitude : Nat) :
    ∃ digits zeros, digits ≤ 2 ^ 53 ∧ nearest magnitude = digits * 2 ^ zeros := by
  rcases Nat.lt_or_ge magnitude (2 ^ 53) with small | large
  · exact ⟨magnitude, 0, Nat.le_of_lt small, by rw [nearest_of_lt small, Nat.pow_zero, Nat.mul_one]⟩
  · exact ⟨_, _, (roundQuotient_bounds large).2, rfl⟩

theorem topPlace_even : 0 < topPlace ∧ topPlace = 2 * (topPlace / 2) := by
  have even : 2 ∣ topPlace := dvd_pow_self 2 (show topExponent ≠ 0 by decide)
  exact ⟨Nat.two_pow_pos _, (Nat.mul_div_cancel' even).symm⟩

theorem two_pow_le_limit : 2 ^ 54 ≤ limit := by
  obtain ⟨_, even⟩ := topPlace_even
  have four : 2 ^ 2 ≤ topPlace := Nat.pow_le_pow_right (by decide) (by decide)
  rw [limit]
  omega

/-- Among the largest numbers, the limit lies half a place below a number with one digit
more, and the digits below that are odd. -/
theorem limit_le_iff_of_lastPlace {magnitude : Nat} (large : 2 ^ 53 ≤ magnitude)
    (place : lastPlace magnitude = topPlace) :
    limit ≤ magnitude ↔ 2 ^ 53 * topPlace ≤ nearest magnitude := by
  obtain ⟨positive, even⟩ := topPlace_even
  obtain ⟨least, most, _⟩ := binade large
  obtain ⟨_, high⟩ := roundQuotient_bounds large
  have whole := Nat.div_add_mod' magnitude topPlace
  have rounded := roundQuotient_cases magnitude topPlace
  rw [limit, nearest, place, Nat.mul_le_mul_right_iff positive]
  rw [place] at high most
  have floor := (Nat.div_lt_iff_lt_mul positive).mpr most
  have rest := Nat.mod_lt magnitude positive
  by_cases last : magnitude / topPlace = 2 ^ 53 - 1
  · rw [last] at whole rounded
    omega
  · have lower : magnitude / topPlace * topPlace ≤ (2 ^ 53 - 2) * topPlace :=
      Nat.mul_le_mul_right _ (by omega)
    omega

/-- A magnitude reaches the limit exactly if what it is rounded to is beyond the
largest numbers. -/
theorem limit_le_iff (magnitude : Nat) :
    limit ≤ magnitude ↔ 2 ^ 53 * topPlace ≤ nearest magnitude := by
  obtain ⟨positive, even⟩ := topPlace_even
  rw [limit]
  rcases Nat.lt_or_ge magnitude (2 ^ 53) with small | large
  · rw [nearest_of_lt small]
    omega
  · obtain ⟨least, most, _⟩ := binade large
    obtain ⟨low, high⟩ := roundQuotient_bounds large
    rcases Nat.lt_trichotomy (magnitude.log2 - 52) topExponent with fewer | same | more
    · have finer : lastPlace magnitude * 2 ≤ topPlace := by
        rw [lastPlace, ← Nat.pow_succ]
        exact Nat.pow_le_pow_right (by decide) fewer
      have below : nearest magnitude ≤ 2 ^ 53 * lastPlace magnitude :=
        Nat.mul_le_mul_right _ high
      omega
    · rw [← limit]
      exact limit_le_iff_of_lastPlace large (by rw [lastPlace, same, topPlace])
    · have coarser : topPlace * 2 ≤ lastPlace magnitude := by
        rw [topPlace, ← Nat.pow_succ]
        exact Nat.pow_le_pow_right (by decide) more
      have above : 2 ^ 52 * lastPlace magnitude ≤ nearest magnitude :=
        Nat.mul_le_mul_right _ low
      omega

section Values

theorem equalsInt_finite {negative : Bool} {mantissa value : Nat} {exponent : Int}
    (whole : mantissa * 2 ^ exponent.toNat = value * 2 ^ (-exponent).toNat) :
    (finite negative mantissa exponent).equalsInt (signed negative value) = true := by
  simp only [equalsInt, quotient, decide_eq_true_eq, Nat.pow_eq]
  by_cases below : exponent < 0
  · have zero : exponent.toNat = 0 := by omega
    have size : (-exponent).toNat = exponent.natAbs := by omega
    rw [zero, size, Nat.pow_zero, Nat.mul_one] at whole
    rw [if_pos below, if_pos below, whole]
    cases negative <;> simp [signed]
  · have zero : (-exponent).toNat = 0 := by omega
    have size : exponent.toNat = exponent.natAbs := by omega
    rw [zero, size, Nat.pow_zero, Nat.mul_one] at whole
    rw [if_neg below, if_neg below, whole]
    cases negative <;> simp [signed]

theorem quotient_denominator_pos (negative : Bool) (mantissa : Nat) (exponent : Int) :
    0 < (quotient negative mantissa exponent).2 := by
  simp only [quotient, Nat.pow_eq]
  split
  · exact Nat.two_pow_pos _
  · exact Nat.one_pos

/-- Numbers that have the values of two integers are the same exactly if the integers
are. -/
theorem same_of_equalsInt {left right : Binary64} {first second : Int}
    (isFirst : left.equalsInt first = true) (isSecond : right.equalsInt second = true) :
    left.same right = decide (first = second) := by
  cases left with
  | infinite negative => exact absurd isFirst (by simp [equalsInt])
  | finite leftSign leftMantissa leftExponent =>
      cases right with
      | infinite negative => exact absurd isSecond (by simp [equalsInt])
      | finite rightSign rightMantissa rightExponent =>
          have leftPositive := quotient_denominator_pos leftSign leftMantissa leftExponent
          have rightPositive := quotient_denominator_pos rightSign rightMantissa rightExponent
          simp only [equalsInt, decide_eq_true_eq] at isFirst isSecond
          simp only [same, isFirst, isSecond]
          generalize (quotient leftSign leftMantissa leftExponent).2 = one at leftPositive
          generalize (quotient rightSign rightMantissa rightExponent).2 = other at rightPositive
          have nonzero : (one : Int) * other ≠ 0 := by
            apply Int.mul_ne_zero <;> omega
          have cross : first * one * other = second * other * one ↔ first = second := by
            rw [show second * other * one = second * (one * other) by ring, Int.mul_assoc]
            exact Int.mul_eq_mul_right_iff nonzero
          simp only [cross]

theorem exponentOf_whole {magnitude : Nat} (nonzero : magnitude ≠ 0) :
    exponentOf magnitude 1 = (magnitude.log2 : Int) - 52 := by
  have low := Nat.log2_self_le nonzero
  have one : Nat.log2 1 = 0 := by decide
  have full : ¬ (scaled magnitude 1 ((magnitude.log2 : Int) - 52)).1 /
      (scaled magnitude 1 ((magnitude.log2 : Int) - 52)).2 < 2 ^ 52 := by
    rw [scaled, Nat.pow_eq]
    by_cases few : (magnitude.log2 : Int) - 52 < 0
    · have size : ((magnitude.log2 : Int) - 52).natAbs = 52 - magnitude.log2 := by omega
      rw [if_pos few, size, Nat.div_one, Nat.not_lt]
      calc 2 ^ 52 = 2 ^ magnitude.log2 * 2 ^ (52 - magnitude.log2) := by
            rw [← Nat.pow_add, Nat.add_sub_cancel' (by omega)]
        _ ≤ magnitude * 2 ^ (52 - magnitude.log2) := Nat.mul_le_mul_right _ low
    · have size : ((magnitude.log2 : Int) - 52).natAbs = magnitude.log2 - 52 := by omega
      rw [if_neg few, size, Nat.one_mul, Nat.not_lt, Nat.le_div_iff_mul_le (Nat.two_pow_pos _),
        ← Nat.pow_add, Nat.add_sub_cancel' (by omega)]
      exact low
  simp only [exponentOf, one, Nat.pow_eq, Int.natCast_zero, Int.sub_zero, if_neg full]
  omega

/-- How a magnitude is rounded, with the carry of a mantissa that has become too
long. -/
theorem ofQuotient_of_scaled (negative : Bool) {magnitude numerator denominator : Nat}
    {exponent : Int} (nonzero : magnitude ≠ 0) (found : exponentOf magnitude 1 = exponent)
    (parts : scaled magnitude 1 exponent = (numerator, denominator)) :
    ofQuotient negative magnitude 1 =
      if roundQuotient numerator denominator = 2 ^ 53 then
        if exponent + 1 > topExponent then infinite negative
        else finite negative (2 ^ 52) (exponent + 1)
      else if exponent > topExponent then infinite negative
      else finite negative (roundQuotient numerator denominator) exponent := by
  simp only [ofQuotient, if_neg nonzero, found, parts, Nat.pow_eq]
  split
  · rfl
  · rfl

theorem ofQuotient_of_lt (negative : Bool) {magnitude : Nat} (small : magnitude < 2 ^ 53) :
    (ofQuotient negative magnitude 1).equalsInt (signed negative magnitude) = true := by
  by_cases zero : magnitude = 0
  · subst zero
    rw [ofQuotient, if_pos rfl]
    exact equalsInt_finite (by rw [Nat.zero_mul, Nat.zero_mul])
  · have digits := (Nat.log2_lt zero).mpr small
    have found : exponentOf magnitude 1 = -((52 - magnitude.log2 : Nat) : Int) := by
      rw [exponentOf_whole zero]
      omega
    have parts : scaled magnitude 1 (-((52 - magnitude.log2 : Nat) : Int)) =
        (magnitude * 2 ^ (52 - magnitude.log2), 1) := by
      rw [scaled, Int.natAbs_neg, Int.natAbs_natCast, Nat.pow_eq]
      split
      · rfl
      · next none =>
          have exact : 52 - magnitude.log2 = 0 := by omega
          simp [exact]
    have short : magnitude * 2 ^ (52 - magnitude.log2) < 2 ^ 53 :=
      calc magnitude * 2 ^ (52 - magnitude.log2)
          < 2 ^ (magnitude.log2 + 1) * 2 ^ (52 - magnitude.log2) :=
            Nat.mul_lt_mul_of_pos_right Nat.lt_log2_self (Nat.two_pow_pos _)
        _ = 2 ^ 53 := by rw [← Nat.pow_add, show magnitude.log2 + 1 + (52 - magnitude.log2) = 53 by omega]
    rw [ofQuotient_of_scaled negative zero found parts, roundQuotient_one,
      if_neg (Nat.ne_of_lt short), if_neg (by omega)]
    exact equalsInt_finite (by simp)

/-- A magnitude beyond the 53 digits becomes the number with a full mantissa that has
the value it is rounded to. -/
theorem exists_ofQuotient_eq (negative : Bool) {magnitude : Nat} (large : 2 ^ 53 ≤ magnitude) :
    ∃ mantissa exponent : Nat, 2 ^ 52 ≤ mantissa ∧ mantissa < 2 ^ 53 ∧
      nearest magnitude = mantissa * 2 ^ exponent ∧
      ofQuotient negative magnitude 1 =
        if topExponent < exponent then infinite negative
        else finite negative mantissa exponent := by
  have nonzero : magnitude ≠ 0 := by omega
  obtain ⟨low, high⟩ := roundQuotient_bounds large
  have digits : 53 ≤ magnitude.log2 := (Nat.le_log2 nonzero).mpr large
  have found : exponentOf magnitude 1 = (magnitude.log2 - 52 : Nat) := by
    rw [exponentOf_whole nonzero]
    omega
  have parts : scaled magnitude 1 (magnitude.log2 - 52 : Nat) = (magnitude, lastPlace magnitude) := by
    rw [scaled, if_neg (by omega), Int.natAbs_natCast, Nat.pow_eq, Nat.one_mul]
    rfl
  rw [ofQuotient_of_scaled negative nonzero found parts]
  by_cases carry : roundQuotient magnitude (lastPlace magnitude) = 2 ^ 53
  · refine ⟨2 ^ 52, magnitude.log2 - 52 + 1, Nat.le_refl _, by decide, ?_, ?_⟩
    · rw [nearest, carry, lastPlace]
      ring
    · rw [if_pos carry]
      norm_cast
  · refine ⟨_, magnitude.log2 - 52, low, by omega, rfl, ?_⟩
    rw [if_neg carry]
    norm_cast

/-- An integer becomes the number with the value that it is rounded to, unless that
lies beyond all finite numbers. -/
theorem ofQuotient_whole (negative : Bool) (magnitude : Nat) :
    (magnitude < limit ∧
        (ofQuotient negative magnitude 1).equalsInt (signed negative (nearest magnitude)) = true) ∨
      (limit ≤ magnitude ∧ ofQuotient negative magnitude 1 = infinite negative) := by
  rw [← Nat.not_le, limit_le_iff]
  rcases Nat.lt_or_ge magnitude (2 ^ 53) with small | large
  · have positive := topPlace_even.1
    rw [nearest_of_lt small]
    exact .inl ⟨by omega, ofQuotient_of_lt negative small⟩
  · obtain ⟨mantissa, exponent, low, high, value, whole⟩ := exists_ofQuotient_eq negative large
    rw [whole, value]
    by_cases beyond : topExponent < exponent
    · have coarser : topPlace * 2 ≤ 2 ^ exponent := by
        rw [topPlace, ← Nat.pow_succ]
        exact Nat.pow_le_pow_right (by decide) beyond
      have above : 2 ^ 52 * 2 ^ exponent ≤ mantissa * 2 ^ exponent := Nat.mul_le_mul_right _ low
      exact .inr ⟨by omega, if_pos beyond⟩
    · have finer : 2 ^ exponent ≤ topPlace := Nat.pow_le_pow_right (by decide) (by omega)
      have below : mantissa * 2 ^ exponent < 2 ^ 53 * topPlace :=
        Nat.mul_lt_mul_of_lt_of_le high finer topPlace_even.1
      rw [if_neg beyond]
      exact .inl ⟨by omega, equalsInt_finite (by simp)⟩

/-- An integer becomes a number with the value that it is rounded to, or none if it
reaches the limit. -/
theorem ofInt?_cases (number : Int) :
    (number.natAbs < limit ∧
        ∃ value, ofInt? number = some value ∧ value.equalsInt (nearestInt number) = true) ∨
      (limit ≤ number.natAbs ∧ ofInt? number = none) := by
  rcases ofQuotient_whole (number < 0) number.natAbs with ⟨below, value⟩ | ⟨beyond, infinite⟩
  · refine .inl ⟨below, _, ?_, value⟩
    rw [ofInt?]
    split
    · next found => exact absurd value (by rw [found]; simp [equalsInt])
    · rfl
  · refine .inr ⟨beyond, ?_⟩
    rw [ofInt?, infinite]

end Values

section Collisions

variable {magnitude : Nat}

theorem lastPlace_eq (zeros : Nat) (low : 2 ^ 52 * 2 ^ zeros ≤ magnitude)
    (high : magnitude < 2 ^ 53 * 2 ^ zeros) : lastPlace magnitude = 2 ^ zeros := by
  have nonzero : magnitude ≠ 0 := by
    have := Nat.two_pow_pos zeros
    omega
  rw [← Nat.pow_add] at low high
  have digits : magnitude.log2 = 52 + zeros :=
    (Nat.log2_eq_iff nonzero).mpr ⟨low, by rwa [show 52 + zeros + 1 = 53 + zeros by omega]⟩
  rw [lastPlace, digits, Nat.add_sub_cancel_left]

theorem nearest_nearest (magnitude : Nat) : nearest (nearest magnitude) = nearest magnitude := by
  obtain ⟨digits, zeros, few, value⟩ := exists_nearest_eq magnitude
  have near := natAbs_sub_nearest_le (nearest magnitude) few zeros
  rw [← value] at near
  omega

/-- With one digit too many the last place stands for two. -/
theorem nearest_of_binade (large : 2 ^ 53 ≤ magnitude) (below : magnitude < 2 ^ 54) :
    nearest magnitude = roundQuotient magnitude 2 * 2 := by
  have place : lastPlace magnitude = 2 := lastPlace_eq 1 (by omega) (by omega)
  rw [nearest, place]

/-- Behind a number that is rounded to itself comes one that is rounded to it as well,
unless the last of its digits is odd and stands for two. -/
theorem nearest_succ (large : 2 ^ 53 ≤ magnitude) (exact : nearest magnitude = magnitude)
    (even : 2 ^ 54 ≤ magnitude ∨ magnitude % 4 = 0) : nearest (magnitude + 1) = magnitude := by
  obtain ⟨least, most, two⟩ := binade large
  have positive := lastPlace_pos magnitude
  rw [nearest] at exact
  generalize digitsOf : roundQuotient magnitude (lastPlace magnitude) = digits at exact
  have few : digits < 2 ^ 53 := by
    apply Nat.lt_of_mul_lt_mul_right
    rwa [exact]
  have room : (digits + 1) * lastPlace magnitude ≤ 2 ^ 53 * lastPlace magnitude :=
    Nat.mul_le_mul_right _ few
  rw [Nat.succ_mul, exact] at room
  have place : lastPlace (magnitude + 1) = lastPlace magnitude :=
    lastPlace_eq _ (Nat.le_succ_of_le least) (by rw [← lastPlace]; omega)
  have floor : (magnitude + 1) / lastPlace magnitude = digits := by
    apply Nat.div_eq_of_lt_le
    · omega
    · rw [Nat.succ_mul]
      omega
  have whole := Nat.div_add_mod' (magnitude + 1) (lastPlace magnitude)
  rw [nearest, place]
  rcases roundQuotient_cases (magnitude + 1) (lastPlace magnitude) with
    ⟨down, _⟩ | ⟨_, near, tie⟩
  · rw [down, floor, exact]
  · rw [floor] at whole tie
    have isTwo : lastPlace magnitude = 2 := by omega
    rw [isTwo] at whole tie most exact
    omega

/-- Below `2 ^ 53`, and below `2 ^ 54` for twice an odd one, a magnitude is rounded to
what no other one is rounded to. -/
theorem eq_of_nearest_eq {other : Nat}
    (apart : magnitude < 2 ^ 53 ∨ (magnitude < 2 ^ 54 ∧ magnitude % 4 = 2))
    (same : nearest other = nearest magnitude) : other = magnitude := by
  rcases Nat.lt_or_ge magnitude (2 ^ 53) with short | large
  · rw [nearest_of_lt short] at same
    have alike : other < 2 ^ 53 := by
      rw [← Nat.not_le, ← le_nearest_iff]
      omega
    rwa [nearest_of_lt alike] at same
  · obtain ⟨below, odd⟩ := apart.resolve_left (by omega)
    have exact := nearest_of_binade large below
    have otherLarge : 2 ^ 53 ≤ other := by
      rwa [← le_nearest_iff, same, le_nearest_iff]
    have otherBelow : other < 2 ^ 54 := by
      by_contra above
      have reach : 2 ^ 53 * 2 ^ 1 ≤ nearest other := le_nearest (Nat.le_refl _) 1 (by omega)
      have whole := roundQuotient_cases magnitude 2
      omega
    rw [exact, nearest_of_binade otherLarge otherBelow] at same
    -- A tie goes to even digits, so the odd ones are those of the number itself.
    have whole := roundQuotient_cases magnitude 2
    have otherWhole := roundQuotient_cases other 2
    omega

/-- The magnitudes that are rounded to what no other one is rounded to. -/
theorem nearest_injective_iff :
    (∀ other, nearest other = nearest magnitude → other = magnitude) ↔
      magnitude < 2 ^ 53 ∨ (magnitude < 2 ^ 54 ∧ magnitude % 4 = 2) := by
  constructor
  · intro alone
    have exact : nearest magnitude = magnitude := alone _ (nearest_nearest magnitude)
    by_contra confused
    rcases Nat.lt_or_ge magnitude (2 ^ 53) with small | large
    · exact confused (.inl small)
    · have even : 2 ^ 54 ≤ magnitude ∨ magnitude % 4 = 0 := by
        rcases Nat.lt_or_ge magnitude (2 ^ 54) with below | above
        · have double := exact
          rw [nearest_of_binade large below] at double
          omega
        · exact .inl above
      have next := alone (magnitude + 1) ((nearest_succ large exact even).trans exact.symm)
      omega
  · intro apart other same
    exact eq_of_nearest_eq apart same

end Collisions

section Integers

theorem natAbs_signed (negative : Bool) (magnitude : Nat) :
    (signed negative magnitude).natAbs = magnitude := by
  cases negative
  · exact Int.natAbs_natCast magnitude
  · exact (Int.natAbs_neg magnitude).trans (Int.natAbs_natCast magnitude)

theorem natAbs_nearestInt (number : Int) : (nearestInt number).natAbs = nearest number.natAbs :=
  natAbs_signed _ _

theorem nearestInt_signed (negative : Bool) (magnitude : Nat) :
    nearestInt (signed negative magnitude) = signed negative (nearest magnitude) := by
  rw [nearestInt, natAbs_signed]
  cases negative with
  | false =>
      have sign : ¬ signed false magnitude < 0 := by simp [signed]
      rw [decide_eq_false sign]
  | true =>
      by_cases zero : magnitude = 0
      · subst zero
        rw [nearest_of_lt (by decide)]
        rfl
      · have sign : signed true magnitude < 0 := by
          simp only [signed, if_true]
          omega
        rw [decide_eq_true sign]

theorem nearest_eq_zero {magnitude : Nat} (zero : nearest magnitude = 0) : magnitude = 0 := by
  have small : magnitude < 2 ^ 53 := by
    rw [← Nat.not_le, ← le_nearest_iff]
    omega
  rwa [nearest_of_lt small] at zero

theorem eq_of_nearestInt_eq {first second : Int} (same : nearestInt first = nearestInt second)
    (sizes : first.natAbs = second.natAbs) : first = second := by
  rcases Int.natAbs_eq_natAbs_iff.mp sizes with equal | opposite
  · exact equal
  · by_contra differs
    have nonzero : nearest second.natAbs ≠ 0 := fun zero => by
      have none := nearest_eq_zero zero
      omega
    rw [nearestInt, nearestInt, sizes] at same
    generalize nearest second.natAbs = magnitude at same nonzero
    simp only [signed, decide_eq_true_eq] at same
    split at same
    · rw [if_neg (by omega)] at same
      omega
    · rw [if_pos (by omega)] at same
      omega

/-- The integers that are rounded to what no other one is rounded to. -/
theorem nearestInt_injective_iff {number : Int} :
    (∀ other, nearestInt number = nearestInt other → number = other) ↔
      number.natAbs < 2 ^ 53 ∨ (number.natAbs < 2 ^ 54 ∧ number.natAbs % 4 = 2) := by
  rw [← nearest_injective_iff]
  constructor
  · intro alone other same
    have equal := alone (signed (number < 0) other) (by rw [nearestInt_signed, same, nearestInt])
    rw [equal, natAbs_signed]
  · intro alone other same
    have sizes := congrArg Int.natAbs same
    rw [natAbs_nearestInt, natAbs_nearestInt] at sizes
    exact eq_of_nearestInt_eq same (alone _ sizes.symm).symm

end Integers

end Stencil.Binary64
