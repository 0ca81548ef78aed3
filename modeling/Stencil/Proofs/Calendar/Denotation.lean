import Stencil.Proofs.Calendar.Ordinal
import Stencil.Proofs.Calendar.ReadBack

/-!
# The moments that values stand for

`Value.Denotes` says without any search through the calendar which moment a value stands
for: the one whose instant is that of the value.  Every value stands for one moment or for
none; only a timestamp whose offset carries it over an end of the calendar is neither
written as a moment nor left as it is.
-/

namespace Stencil

def Date.first : Date := ⟨1, 1, 1, by decide⟩

def Date.last : Date := ⟨9999, 12, 31, by decide⟩

theorem Date.eq_first_iff {date : Date} : date = first ↔ date.ordinal = 1 :=
  ordinal_injective.eq_iff.symm

theorem Date.eq_last_iff {date : Date} : date = last ↔ date.ordinal = lastOrdinal :=
  ordinal_injective.eq_iff.symm

namespace Timestamp

variable {stamp : Timestamp}

/-- A timestamp stands for its own moment, or for the one that lies its offset before. -/
inductive Denotes : Timestamp → Moment → Prop where
  | here (moment : Moment) : Denotes ⟨moment, none⟩ moment
  | away {moment there : Moment} {offset : Int} :
      moment.instant = there.instant - offset → Denotes ⟨there, some offset⟩ moment

/-- The offset carries the timestamp over the first or the last instant of the calendar. -/
def LeavesCalendar (stamp : Timestamp) : Prop :=
  ∃ offset, stamp.offset = some offset ∧
    (stamp.moment.instant - offset < 0 ∨
      Moment.endOfCalendar ≤ stamp.moment.instant - offset)

theorem toUniversal?_eq_some_iff {moment : Moment} :
    stamp.toUniversal? = some moment ↔ stamp.Denotes moment := by
  obtain ⟨there, _ | offset⟩ := stamp
  · constructor
    · rintro ⟨⟩
      exact .here _
    · rintro ⟨⟩
      rfl
  · rw [toUniversal?, Moment.ofInstant?_eq_some_iff]
    constructor
    · exact .away
    · rintro ⟨⟩
      assumption

theorem toUniversal?_eq_none_iff : stamp.toUniversal? = none ↔ stamp.LeavesCalendar := by
  obtain ⟨there, _ | offset⟩ := stamp
  · constructor
    · rintro ⟨⟩
    · rintro ⟨_, ⟨⟩, _⟩
  · rw [toUniversal?, Moment.ofInstant?_eq_none_iff]
    constructor
    · exact fun outside => ⟨offset, rfl, outside⟩
    · rintro ⟨_, ⟨⟩, outside⟩
      exact outside

/-- With an offset of less than a day only a timestamp of the first or of the last day
leaves the calendar. -/
theorem leavesCalendar_iff (moment : Moment) {offset : Int} (short : offset.natAbs < dayLength) :
    (⟨moment, some offset⟩ : Timestamp).LeavesCalendar ↔
      (moment.date = Date.first ∧ moment.clock.sinceMidnight < offset) ∨
        (moment.date = Date.last ∧ dayLength ≤ moment.clock.sinceMidnight - offset) := by
  have early := moment.date.daysBeforeYear_lt_ordinal
  have late := moment.date.ordinal_le_lastOrdinal
  have inDay := moment.clock.sinceMidnight_lt
  have outside : (⟨moment, some offset⟩ : Timestamp).LeavesCalendar ↔
      moment.instant - offset < 0 ∨ Moment.endOfCalendar ≤ moment.instant - offset := by
    simp only [LeavesCalendar, Option.some.injEq, exists_eq_left']
  rw [outside, Date.eq_first_iff, Date.eq_last_iff, Moment.instant, Moment.endOfCalendar]
  rw [Date.lastOrdinal] at *
  rw [dayLength] at *
  omega

end Timestamp

namespace Iso

theorem natAbs_lt_of_offset? {fields : Fields} {negative : Bool} {offset : Int}
    (read : fields.offset? negative = some offset) : offset.natAbs < dayLength := by
  simp only [Fields.offset?] at read
  split at read
  · cases read
    decide
  · split at read
    · cases read
    · next short =>
        rw [Nat.not_le] at short
        rw [← Option.some.inj read]
        split <;> omega

theorem natAbs_lt_of_time? {text : Text} {clock : Clock} {offset : Int}
    (read : time? text = some (clock, some offset)) : offset.natAbs < dayLength := by
  obtain ⟨fields, _, zoned⟩ := Option.bind_eq_some_iff.mp read
  split at zoned
  · split at zoned
    · obtain ⟨found, _, same⟩ := Option.bind_eq_some_iff.mp zoned
      cases same
    · cases zoned
  · split at zoned
    · obtain ⟨found, _, same⟩ := Option.bind_eq_some_iff.mp zoned
      cases same
      decide
    · cases zoned
  · obtain ⟨zone, _, signed⟩ := Option.bind_eq_some_iff.mp zoned
    split at signed
    · obtain ⟨given, short, timed⟩ := Option.bind_eq_some_iff.mp signed
      obtain ⟨found, _, same⟩ := Option.bind_eq_some_iff.mp timed
      cases same
      exact natAbs_lt_of_offset? short
    · cases signed

theorem natAbs_lt_of_timestamp? {text : Text} {moment : Moment} {offset : Int}
    (read : timestamp? text = some ⟨moment, some offset⟩) : offset.natAbs < dayLength := by
  obtain ⟨length, _, dated⟩ := Option.bind_eq_some_iff.mp read
  obtain ⟨date, _, timed⟩ := Option.bind_eq_some_iff.mp dated
  split at timed
  · cases timed
  · obtain ⟨⟨clock, zone⟩, time, same⟩ := Option.bind_eq_some_iff.mp timed
    cases same
    exact natAbs_lt_of_time? time

end Iso

namespace Value

variable {value : Value} {moment : Moment}

/-- The timestamp that a value is read as: a date, a timestamp, or a text in one of the
ISO forms. -/
def stamp? : Value → Option Timestamp
  | timestamp _ stamp => some stamp
  | date _ day => some ⟨⟨day, Clock.midnight⟩, none⟩
  | text content => Iso.timestamp? (withOffset (Text.trim content))
  | _ => none

/-- The seconds that a number of milliseconds is read as. -/
def seconds? : Value → Option Binary64
  | int value => some (Binary64.ofQuotient (value < 0) value.natAbs 1000)
  | float value => some (value.divideBy 1000)
  | _ => none

/-- The moment that a value stands for: that of its timestamp, or the one as many seconds
after the beginning of 1970, to the microsecond, unless that is in the first day of the
calendar. -/
inductive Denotes (value : Value) (moment : Moment) : Prop where
  | stamp {stamp : Timestamp} :
      value.stamp? = some stamp → stamp.Denotes moment → Denotes value moment
  | seconds {negative : Bool} {mantissa : Nat} {exponent : Int} :
      value.seconds? = some (.finite negative mantissa exponent) →
        moment.instant = epoch + Moment.splitSeconds negative mantissa exponent →
          dayLength ≤ moment.instant → Denotes value moment

/-- The value is read as a timestamp that lies outside the calendar in universal time. -/
def LeavesCalendar (value : Value) : Prop :=
  ∃ stamp, value.stamp? = some stamp ∧ stamp.LeavesCalendar

/-- What is read of a value decides what it stands for. -/
theorem moment?_eq (value : Value) :
    value.moment? = match value.stamp?, value.seconds? with
      | some stamp, _ => universal stamp
      | none, some seconds => .ok (Moment.ofSeconds? seconds)
      | none, none => .ok none := by
  cases value with
  | text content =>
      rw [moment?, stamp?]
      cases Iso.timestamp? (withOffset (Text.trim content)) <;> rfl
  | _ => rfl

theorem stamp?_eq_none {seconds : Binary64} (number : value.seconds? = some seconds) :
    value.stamp? = none := by
  cases value <;> first | rfl | exact absurd number (by simp [seconds?])

theorem universal_eq_ok_iff {stamp : Timestamp} :
    universal stamp = .ok (some moment) ↔ stamp.Denotes moment := by
  rw [← Timestamp.toUniversal?_eq_some_iff, universal]
  cases stamp.toUniversal? <;> simp

theorem universal_eq_error_iff {stamp : Timestamp} {fault : Fault} :
    universal stamp = .error fault ↔ fault = .dateOutOfRange ∧ stamp.LeavesCalendar := by
  rw [← Timestamp.toUniversal?_eq_none_iff, universal]
  cases stamp.toUniversal? <;> simp [eq_comm]

theorem ofSeconds?_eq_some_iff {seconds : Binary64} :
    Moment.ofSeconds? seconds = some moment ↔
      ∃ negative mantissa exponent, seconds = .finite negative mantissa exponent ∧
        moment.instant = epoch + Moment.splitSeconds negative mantissa exponent ∧
        dayLength ≤ moment.instant := by
  cases seconds with
  | infinite negative =>
      constructor
      · rintro ⟨⟩
      · rintro ⟨_, _, _, ⟨⟩, _⟩
  | finite negative mantissa exponent =>
      rw [Moment.ofSeconds?]
      split
      · next early =>
          constructor
          · rintro ⟨⟩
          · rintro ⟨_, _, _, ⟨⟩, same, late⟩
            exact absurd early (by omega)
      · next late =>
          rw [Moment.ofInstant?_eq_some_iff]
          constructor
          · exact fun same => ⟨negative, mantissa, exponent, rfl, same, by omega⟩
          · rintro ⟨_, _, _, ⟨⟩, same, _⟩
            exact same

theorem denotes_of_stamp? {stamp : Timestamp} (stamped : value.stamp? = some stamp) :
    value.Denotes moment ↔ stamp.Denotes moment := by
  constructor
  · rintro (⟨same, denoted⟩ | ⟨number, _, _⟩)
    · rw [stamped] at same
      cases same
      exact denoted
    · rw [stamp?_eq_none number] at stamped
      cases stamped
  · exact .stamp stamped

theorem denotes_of_seconds? {seconds : Binary64} (number : value.seconds? = some seconds) :
    value.Denotes moment ↔ Moment.ofSeconds? seconds = some moment := by
  rw [ofSeconds?_eq_some_iff]
  constructor
  · rintro (⟨read, _⟩ | ⟨read, same, late⟩)
    · rw [stamp?_eq_none number] at read
      cases read
    · rw [number] at read
      cases read
      exact ⟨_, _, _, rfl, same, late⟩
  · rintro ⟨negative, mantissa, exponent, rfl, same, late⟩
    exact .seconds number same late

theorem moment?_eq_ok_iff : value.moment? = .ok (some moment) ↔ value.Denotes moment := by
  rw [moment?_eq]
  cases stamped : value.stamp? with
  | some stamp => rw [denotes_of_stamp? stamped, ← universal_eq_ok_iff]
  | none =>
      cases number : value.seconds? with
      | some seconds => rw [denotes_of_seconds? number, Except.ok.injEq]
      | none =>
          constructor
          · rintro ⟨⟩
          · rintro (⟨read, _⟩ | ⟨read, _, _⟩)
            · exact absurd (stamped.symm.trans read) (by simp)
            · exact absurd (number.symm.trans read) (by simp)

theorem moment?_eq_error_iff {fault : Fault} :
    value.moment? = .error fault ↔ fault = .dateOutOfRange ∧ value.LeavesCalendar := by
  rw [moment?_eq, LeavesCalendar]
  cases stamped : value.stamp? with
  | some stamp => simpa using universal_eq_error_iff
  | none => cases value.seconds? <;> simp

theorem Denotes.unique {other : Moment} (denoted : value.Denotes moment)
    (denotes : value.Denotes other) : moment = other := by
  rw [← moment?_eq_ok_iff] at denoted denotes
  rw [denoted] at denotes
  cases denotes
  rfl

/-- A value is not given as a timestamp whose offset takes a day or more. -/
def HasShortOffset (value : Value) : Prop :=
  ∀ identity moment offset, value = timestamp identity ⟨moment, some offset⟩ →
    offset.natAbs < dayLength

theorem HasShortOffset.natAbs_lt {offset : Int} (short : value.HasShortOffset)
    (read : value.stamp? = some ⟨moment, some offset⟩) : offset.natAbs < dayLength := by
  cases value with
  | timestamp identity stamp =>
      cases read
      exact short identity moment offset rfl
  | text content => exact Iso.natAbs_lt_of_timestamp? read
  | _ => cases read

/-- A value leaves the calendar only from its first and from its last day. -/
theorem HasShortOffset.leavesCalendar_iff (short : value.HasShortOffset) :
    value.LeavesCalendar ↔
      ∃ moment offset, value.stamp? = some ⟨moment, some offset⟩ ∧
        ((moment.date = Date.first ∧ moment.clock.sinceMidnight < offset) ∨
          (moment.date = Date.last ∧ dayLength ≤ moment.clock.sinceMidnight - offset)) := by
  constructor
  · rintro ⟨⟨moment, _⟩, read, offset, rfl, outside⟩
    have edge := Timestamp.leavesCalendar_iff moment (short.natAbs_lt read)
    exact ⟨moment, offset, read, edge.mp ⟨offset, rfl, outside⟩⟩
  · rintro ⟨moment, offset, read, edge⟩
    exact ⟨_, read, (Timestamp.leavesCalendar_iff moment (short.natAbs_lt read)).mpr edge⟩

theorem isBlankValue_eq_false_of_leavesCalendar (leaves : value.LeavesCalendar) :
    value.isBlankValue = false := by
  obtain ⟨stamp, read, _⟩ := leaves
  cases value with
  | text content =>
      have nothing : (text []).stamp? = none := rfl
      apply decide_eq_false
      rintro rfl
      rw [nothing] at read
      cases read
  | timestamp identity stamp => rfl
  | date identity day => rfl
  | _ => cases read

theorem moment?_eq_ok_none (nothing : ∀ moment, ¬ value.Denotes moment)
    (stays : ¬ value.LeavesCalendar) : value.moment? = .ok none := by
  cases found : value.moment? with
  | error fault => exact absurd (moment?_eq_error_iff.mp found).2 stays
  | ok found_moment =>
      cases found_moment with
      | none => rfl
      | some moment => exact absurd (moment?_eq_ok_iff.mp found) (nothing moment)

end Value

namespace Filter

/-- The ways in which writing a value as a date can end; `blank` is what becomes of an
empty value or of zero. -/
inductive Outcome (value : Value) (format : Text) (blank : Value) : Except Fault Value → Prop where
  | blank : value.isBlankValue = true → Outcome value format blank (.ok blank)
  | written {moment : Moment} : value.isBlankValue = false → value.Denotes moment →
      Outcome value format blank (.ok (.text (moment.format format)))
  | kept : value.isBlankValue = false → (∀ moment, ¬ value.Denotes moment) →
      ¬ value.LeavesCalendar → Outcome value format blank (.ok value)
  | failed : value.LeavesCalendar → Outcome value format blank (.error .dateOutOfRange)

theorem outcome_iff {value blank : Value} {format : Text} {result : Except Fault Value} :
    (if value.isBlankValue = true then .ok blank else formatted value (.text format)) = result ↔
      Outcome value format blank result := by
  constructor
  · rintro rfl
    by_cases empty : value.isBlankValue = true
    · rw [if_pos empty]
      exact .blank empty
    · rw [if_neg empty]
      rw [Bool.not_eq_true] at empty
      rcases formatted_cases value format with
        ⟨fault, read, failed⟩ | ⟨read, kept⟩ | ⟨moment, read, written⟩
      · obtain ⟨rfl, leaves⟩ := Value.moment?_eq_error_iff.mp read
        rw [failed]
        exact .failed leaves
      · rw [kept]
        refine .kept empty (fun moment denoted => ?_) fun leaves => ?_
        · rw [Value.moment?_eq_ok_iff.mpr denoted] at read
          cases read
        · rw [Value.moment?_eq_error_iff.mpr ⟨rfl, leaves⟩] at read
          cases read
      · rw [written]
        exact .written empty (Value.moment?_eq_ok_iff.mp read)
  · intro outcome
    cases outcome with
    | blank empty => exact if_pos empty
    | written some denoted =>
        rw [some, formatted, Value.moment?_eq_ok_iff.mpr denoted]
        rfl
    | kept some nothing stays =>
        rw [some, formatted, Value.moment?_eq_ok_none nothing stays]
        rfl
    | failed leaves =>
        rw [Value.isBlankValue_eq_false_of_leavesCalendar leaves, formatted,
          Value.moment?_eq_error_iff.mpr ⟨rfl, leaves⟩]
        rfl

/-- What the `date` filter and `formatDate` make of a value: the moment that it stands for
is written in the format, and any other value stays as it is, whatever it is.  The one
exception is a value that is read as a timestamp with an offset and that lies outside the
calendar in universal time; it is one of the first or of the last day. -/
theorem date_outcome (value : Value) (format : Text) :
    (∀ result, date [value, .text format] = result ↔ Outcome value format value result) ∧
      (∀ result,
        Helper.formatDate [value, .text format] = result ↔
          Outcome value format (.text []) result) ∧
      (value.HasShortOffset →
        (value.LeavesCalendar ↔
          ∃ moment offset, value.stamp? = some ⟨moment, some offset⟩ ∧
            ((moment.date = Date.first ∧ moment.clock.sinceMidnight < offset) ∨
              (moment.date = Date.last ∧ dayLength ≤ moment.clock.sinceMidnight - offset)))) :=
  ⟨fun _ => outcome_iff, fun _ => outcome_iff, Value.HasShortOffset.leavesCalendar_iff⟩

/-- Midnight of the first day, east of the zero meridian. -/
theorem date_outcome_firstDay :
    let value := Value.text "0001-01-01T00:00:00+05:00".toList
    let format := "YYYY".toList
    value.HasShortOffset ∧ date [value, .text format] = .error .dateOutOfRange ∧
      Helper.formatDate [value, .text format] = .error .dateOutOfRange := by
  intro value format
  obtain ⟨filtered, helped, onEdge⟩ := date_outcome value format
  have short : value.HasShortOffset := nofun
  have leaves : value.LeavesCalendar := by
    refine (onEdge short).mpr ⟨⟨Date.first, Clock.midnight⟩, 18000000000, ?_, .inl ⟨rfl, ?_⟩⟩
    · decide +kernel
    · decide
  exact ⟨short, (filtered _).mpr (.failed leaves), (helped _).mpr (.failed leaves)⟩

end Filter

end Stencil
