import Stencil.Proofs.Calendar.Format
import Stencil.Template.Helper

/-!
# Reading written moments

What the default format makes of a moment is the ISO form of the moment without its
microseconds, and is read as just that moment.  So a date that was written once is not
changed by being written again.
-/

namespace Stencil

open Text

section Digits

variable {width number : Nat}

theorem ofDigitChars_padded : Nat.ofDigitChars 10 (padded width number) 0 = number := by
  have noughts : ∀ count, Nat.ofDigitChars 10 (List.replicate count '0') 0 = 0 := by
    intro count
    induction count with
    | zero => rfl
    | succ count ih => exact ih
  rw [padded, Nat.ofDigitChars_append, noughts]
  exact Nat.ofDigitChars_toDigits (by decide) (by decide)

theorem Iso.go_digits {digits : Text} (decimal : ∀ char ∈ digits, char ∈ decimalDigits)
    (value : Nat) (rest : Text) :
    Iso.digits?.go value digits.length (digits ++ rest) =
      some (Nat.ofDigitChars 10 digits value, rest) := by
  induction digits generalizing value with
  | nil => rfl
  | cons char digits ih =>
      obtain ⟨here, later⟩ := List.forall_mem_cons.mp decimal
      have isDigit : ∀ char ∈ decimalDigits, isDigit char = true := forall_of_all (by decide)
      rw [List.length_cons, List.cons_append, Iso.digits?.go, if_pos (isDigit char here), ih later,
        Nat.mul_comm value]
      rfl

/-- A field is read back, whatever follows it. -/
theorem Iso.digits?_padded (places : 0 < width) (few : number < 10 ^ width) (rest : Text) :
    Iso.digits? width (padded width number ++ rest) = some (number, rest) := by
  have decimal : ∀ char ∈ padded width number, char ∈ decimalDigits := fun _ =>
    mem_decimalDigits_of_mem_padded
  have read := go_digits decimal 0 rest
  rwa [length_padded places few, ofDigitChars_padded] at read

theorem exists_padded_two (few : number < 10 ^ 2) :
    ∃ tens ones, padded 2 number = [tens, ones] ∧ tens ∈ decimalDigits ∧ ones ∈ decimalDigits := by
  have digits : ∀ char ∈ padded 2 number, char ∈ decimalDigits := fun _ =>
    mem_decimalDigits_of_mem_padded
  obtain ⟨tens, ones, both⟩ := List.length_eq_two.mp (length_padded (by decide) few)
  rw [both] at digits
  exact ⟨tens, ones, both, digits tens (by simp), digits ones (by simp)⟩

end Digits

namespace Iso

variable (date : Date) (clock : Clock)

theorem dateLength?_text (rest : Text) : dateLength? (date.text ++ ' ' :: rest) = some 10 := by
  obtain ⟨tens, ones, month, isDigit, _⟩ := exists_padded_two date.month_lt
  have notWeek : tens ≠ 'W' := by
    rintro rfl
    exact absurd isDigit (by decide)
  have year := length_padded (by decide) date.year_lt
  have day : (padded 2 date.day).length = 2 :=
    length_padded (by decide) (Nat.lt_of_le_of_lt date.day_le (by decide))
  have length : (date.text ++ ' ' :: rest).length = rest.length + 11 := by
    simp only [Date.text, month, List.length_append, List.length_cons, List.length_nil, year, day]
    omega
  have hyphen : isAt (date.text ++ ' ' :: rest) 4 '-' = true := by
    simp [isAt, Date.text, year]
  have noWeek : isAt (date.text ++ ' ' :: rest) 5 'W' = false := by
    simp [isAt, Date.text, List.getElem?_append_right, year, month, notWeek]
  rw [dateLength?, length, if_neg (by omega), if_neg (by omega), hyphen, noWeek]
  rfl

theorem date?_text (rest : Text) : date? 10 (date.text ++ ' ' :: rest) = some date := by
  obtain ⟨tens, ones, month, isDigit, _⟩ := exists_padded_two date.month_lt
  have notWeek : tens ≠ 'W' := by
    rintro rfl
    exact absurd isDigit (by decide)
  have readYear := digits?_padded (by decide) date.year_lt
    ('-' :: tens :: ones :: '-' :: (padded 2 date.day ++ ' ' :: rest))
  have readMonth := digits?_padded (by decide) date.month_lt
    ('-' :: (padded 2 date.day ++ ' ' :: rest))
  have readDay := digits?_padded (by decide) date.day_lt (' ' :: rest)
  have fields : date.text ++ ' ' :: rest =
      padded 4 date.year ++ '-' :: tens :: ones :: '-' :: (padded 2 date.day ++ ' ' :: rest) := by
    simp [Date.text, month]
  rw [month, List.cons_append, List.cons_append, List.nil_append] at readMonth
  rw [date?, fields, readYear]
  simp only [Option.bind_eq_bind, Option.bind_some, List.head?_cons, List.drop_one,
    List.tail_cons, if_true]
  split
  · next week same => exact absurd (List.cons.inj same).1 notWeek
  · simp only [readMonth, Option.bind_some, hyphen?, decide_true, Bool.not_true,
      Bool.false_eq_true, if_false, readDay]
    exact dif_pos date.valid

theorem fields?_colon {number : Nat} (few : number < 10 ^ 2) (first : Bool) (steps : Nat)
    {later : Text} (more : later ≠ []) :
    fields? first true (steps + 1) (padded 2 number ++ ':' :: later) =
      (fields? false true steps later).map fun fields =>
        { fields with parts := number :: fields.parts } := by
  obtain ⟨char, later, rfl⟩ := List.exists_cons_of_ne_nil more
  rw [fields?, digits?_padded (by decide) few]
  cases first <;> rfl

theorem fields?_last {number : Nat} (few : number < 10 ^ 2) (first separated : Bool) (steps : Nat) :
    fields? first separated (steps + 1) (padded 2 number) = some ⟨[number], 0, true⟩ := by
  have read := digits?_padded (by decide) few []
  rw [List.append_nil] at read
  rw [fields?, read]
  rfl

theorem time?_text (whole : clock.microsecond = 0) : time? clock.text = some (clock, none) := by
  have valid := clock.valid
  have fields : clock.text =
      padded 2 clock.hour ++ ':' :: (padded 2 clock.minute ++ ':' :: padded 2 clock.second) := by
    simp [Clock.text, whole]
  have noMark : ∀ char ∈ clock.text, (char = '+' || char = '-' || char = 'Z') = false := by
    have plain : ∀ char ∈ ':' :: decimalDigits, (char = '+' || char = '-' || char = 'Z') = false :=
      forall_of_all (by decide)
    intro char member
    apply plain
    simp only [fields, List.mem_append, List.mem_cons] at member
    rcases member with hour | rfl | minute | rfl | second
    · exact List.mem_cons_of_mem _ (mem_decimalDigits_of_mem_padded hour)
    · exact List.mem_cons_self
    · exact List.mem_cons_of_mem _ (mem_decimalDigits_of_mem_padded minute)
    · exact List.mem_cons_self
    · exact List.mem_cons_of_mem _ (mem_decimalDigits_of_mem_padded second)
  have read : fields? true true 3 clock.text =
      some ⟨[clock.hour, clock.minute, clock.second], 0, true⟩ := by
    rw [fields, fields?_colon (by omega) true 2 (by simp),
      fields?_colon (by omega) false 1 padded_ne_nil, fields?_last (by omega)]
    rfl
  have found : Fields.clock? ⟨[clock.hour, clock.minute, clock.second], 0, true⟩ = some clock := by
    have exists_clock : Clock.ofFields? clock.hour clock.minute clock.second clock.microsecond =
        some clock := dif_pos valid
    rwa [whole] at exists_clock
  have all : clock.text.takeWhile (fun char => !(char = '+' || char = '-' || char = 'Z')) =
      clock.text := by
    rw [List.takeWhile_eq_self_iff]
    intro char member
    rw [noMark char member, Bool.not_false]
  have nothing : clock.text.dropWhile (fun char => !(char = '+' || char = '-' || char = 'Z')) =
      [] := by
    rw [List.dropWhile_eq_nil_iff]
    intro char member
    rw [noMark char member, Bool.not_false]
  simp only [time?, all, nothing, read, Option.bind_eq_bind, Option.bind_some, if_true, found]

end Iso

namespace Moment

/-- The moment without its microseconds. -/
def toSeconds (moment : Moment) : Moment where
  date := moment.date
  clock := { moment.clock with
    microsecond := 0
    valid := by
      have := moment.clock.valid
      omega }

variable (moment : Moment)

theorem timestamp?_text (whole : moment.clock.microsecond = 0) :
    Iso.timestamp? (moment.text ' ') = some ⟨moment, none⟩ := by
  have length : moment.date.text.length = 10 := by
    simp only [Date.text, List.length_append, List.length_cons,
      length_padded (by decide) moment.date.year_lt, length_padded (by decide) moment.date.month_lt,
      length_padded (by decide) moment.date.day_lt]
  have behind :
      (moment.date.text ++ ' ' :: moment.clock.text).drop 10 = ' ' :: moment.clock.text := by
    rw [← length, List.drop_left]
  simp only [Iso.timestamp?, text, Iso.dateLength?_text, Option.bind_eq_bind, Option.bind_some,
    Iso.date?_text, behind, Iso.time?_text _ whole]

theorem format_defaultFormat : moment.format defaultFormat = moment.toSeconds.text ' ' := by
  have fields : replaceAtOnce moment.tokens defaultFormat =
      padded 4 moment.date.year ++ '-' :: (padded 2 moment.date.month ++ '-' ::
        (padded 2 moment.date.day ++ ' ' :: (padded 2 moment.clock.hour ++ ':' ::
          (padded 2 moment.clock.minute ++ ':' :: (padded 2 moment.clock.second ++ []))))) := rfl
  have written : moment.format defaultFormat = replaceAtOnce moment.tokens defaultFormat :=
    moment.independent_tokens.replaceInTurn_eq defaultFormat
  rw [written, fields]
  simp [text, toSeconds, Date.text, Clock.text]

theorem mem_decimalDigits_of_head? {char : Char} (first : char ∈ (moment.text ' ').head?) :
    char ∈ decimalDigits := by
  have some : padded 4 moment.date.year ≠ [] := padded_ne_nil
  obtain ⟨digit, later, year⟩ := List.exists_cons_of_ne_nil some
  have inside : digit ∈ padded 4 moment.date.year := by
    rw [year]
    exact List.mem_cons_self
  simp only [text, Date.text, year, List.cons_append, List.head?_cons, Option.mem_some_iff] at first
  exact first ▸ mem_decimalDigits_of_mem_padded inside

theorem mem_decimalDigits_of_getLast? (whole : moment.clock.microsecond = 0) {char : Char}
    (last : char ∈ (moment.text ' ').getLast?) : char ∈ decimalDigits := by
  have split : moment.text ' ' =
      (moment.date.text ++ ' ' :: (padded 2 moment.clock.hour ++ ':' ::
        (padded 2 moment.clock.minute ++ [':']))) ++ padded 2 moment.clock.second := by
    simp [text, Clock.text, whole]
  rw [split, List.getLast?_append_of_ne_nil _ padded_ne_nil] at last
  exact mem_decimalDigits_of_mem_padded (List.mem_of_mem_getLast? last)

end Moment

namespace Value

theorem moment?_text (moment : Moment) (whole : moment.clock.microsecond = 0) :
    (Value.text (moment.text ' ')).moment? = .ok (some moment) := by
  have solid : ∀ char ∈ decimalDigits, isBlank char = false ∧ ¬ (char = 'Z' ∨ char = 'z') :=
    forall_of_all (by decide)
  have trimmed : trim (moment.text ' ') = moment.text ' ' :=
    trim_eq_self (fun char first => (solid char (moment.mem_decimalDigits_of_head? first)).1)
      fun char last => (solid char (moment.mem_decimalDigits_of_getLast? whole last)).1
  have noLetter : withOffset (moment.text ' ') = moment.text ' ' := by
    rw [withOffset]
    split
    · next mark last =>
        exact if_neg (solid mark (moment.mem_decimalDigits_of_getLast? whole last)).2
    · rfl
  rw [moment?, trimmed, noLetter, moment.timestamp?_text whole]
  rfl

/-- A moment that was written in the default format is read without its
microseconds. -/
theorem moment?_format (moment : Moment) :
    (Value.text (moment.format Moment.defaultFormat)).moment? = .ok (some moment.toSeconds) := by
  rw [moment.format_defaultFormat]
  exact moment?_text moment.toSeconds rfl

end Value

namespace Filter

theorem formatted_cases (value : Value) (format : Text) :
    (∃ fault, value.moment? = .error fault ∧ formatted value (.text format) = .error fault) ∨
      (value.moment? = .ok none ∧ formatted value (.text format) = .ok value) ∨
      ∃ moment, value.moment? = .ok (some moment) ∧
        formatted value (.text format) = .ok (.text (moment.format format)) := by
  rw [formatted]
  cases denoted : value.moment? with
  | error fault => exact .inl ⟨fault, rfl, rfl⟩
  | ok found =>
      cases found with
      | none => exact .inr (.inl ⟨rfl, rfl⟩)
      | some moment => exact .inr (.inr ⟨moment, rfl, rfl⟩)

theorem formatted_format (moment : Moment) :
    formatted (.text (moment.format Moment.defaultFormat)) Value.defaultFormat =
      .ok (.text (moment.format Moment.defaultFormat)) := by
  have again : moment.toSeconds.format Moment.defaultFormat = moment.format Moment.defaultFormat :=
    rfl
  rcases formatted_cases (.text (moment.format Moment.defaultFormat)) Moment.defaultFormat with
    ⟨fault, denoted, _⟩ | ⟨denoted, _⟩ | ⟨found, denoted, written⟩
  · rw [Value.moment?_format] at denoted
    exact absurd denoted (by simp)
  · rw [Value.moment?_format] at denoted
    exact absurd denoted (by simp)
  · rw [Value.moment?_format] at denoted
    cases denoted
    rw [again] at written
    exact written

theorem isBlankValue_format (moment : Moment) :
    (Value.text (moment.format Moment.defaultFormat)).isBlankValue = false := by
  have length : (moment.format Moment.defaultFormat).length = Moment.defaultFormat.length :=
    moment.independent_tokens.length_replaceInTurn Moment.defaultFormat
  have some : moment.format Moment.defaultFormat ≠ [] := by
    rw [← List.length_pos_iff, length]
    decide
  exact decide_eq_false some

/-- What the `date` filter gives it gives again when it is applied to that, and so does
`formatDate` unless that is empty or zero.  A moment that was written in the default
format is read as the moment without its microseconds and is written in the same way
by both. -/
theorem date_readsBack :
    (∀ moment : Moment,
      (Value.text (moment.format Moment.defaultFormat)).moment? = .ok (some moment.toSeconds) ∧
        date [.text (moment.format Moment.defaultFormat)] =
          .ok (.text (moment.format Moment.defaultFormat)) ∧
        Helper.formatDate [.text (moment.format Moment.defaultFormat)] =
          .ok (.text (moment.format Moment.defaultFormat))) ∧
      ∀ value result, date [value] = .ok result →
        date [result] = .ok result ∧
          Helper.formatDate [result] =
            .ok (if result.isBlankValue = true then .text [] else result) := by
  have written : ∀ moment : Moment,
      date [.text (moment.format Moment.defaultFormat)] =
          .ok (.text (moment.format Moment.defaultFormat)) ∧
        Helper.formatDate [.text (moment.format Moment.defaultFormat)] =
          .ok (.text (moment.format Moment.defaultFormat)) := by
    intro moment
    simp only [date, dateWith, Helper.formatDate, Helper.formatDateWith, isBlankValue_format,
      Bool.false_eq_true, if_false, formatted_format, and_self]
  refine ⟨fun moment => ⟨Value.moment?_format moment, written moment⟩,
    fun value result returned => ?_⟩
  by_cases blank : value.isBlankValue = true
  · have same : result = value := by
      rw [date, dateWith, if_pos blank] at returned
      exact (Except.ok.inj returned).symm
    subst same
    refine ⟨returned, ?_⟩
    rw [Helper.formatDate, Helper.formatDateWith, if_pos blank, if_pos blank]
  · have filtered : ∀ outcome, formatted value Value.defaultFormat = outcome →
        date [value] = outcome ∧ Helper.formatDate [value] = outcome := by
      intro outcome equal
      rw [date, dateWith, if_neg blank, Helper.formatDate, Helper.formatDateWith, if_neg blank]
      exact ⟨equal, equal⟩
    rcases formatted_cases value Moment.defaultFormat with
      ⟨fault, _, failed⟩ | ⟨_, kept⟩ | ⟨moment, _, formattedText⟩
    · rw [(filtered _ failed).1] at returned
      exact absurd returned (by simp)
    · obtain ⟨asFilter, asHelper⟩ := filtered _ kept
      rw [asFilter] at returned
      cases returned
      rw [if_neg blank]
      exact ⟨asFilter, asHelper⟩
    · rw [(filtered _ formattedText).1] at returned
      cases returned
      rw [isBlankValue_format, if_neg Bool.false_ne_true]
      exact written moment

/-- A timestamp with an offset and a fraction of a second. -/
theorem date_leapDay :
    let value := Value.text "2024-02-29T23:59:59.999999+05:30".toList
    let written := Value.text "2024-02-29 18:29:59".toList
    date [value] = .ok written ∧ date [written] = .ok written ∧
      Helper.formatDate [written] = .ok written := by
  intro value written
  have returned : date [value] = .ok written := by decide +kernel
  obtain ⟨again, asHelper⟩ := date_readsBack.2 value written returned
  exact ⟨returned, again, asHelper⟩

end Filter

end Stencil
