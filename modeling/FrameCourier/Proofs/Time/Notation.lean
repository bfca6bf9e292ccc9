import FrameCourier.Proofs.Text.Digits
import FrameCourier.Proofs.Time.Calendar

/-!
# Instants are read as they are written

What `Instant.text` writes is in the relaxed notation, and every part of it is read as the part
that was written.  The second of a leap second is written as 60 at the end of a minute, where it is
read again; within a minute it is written like the next second, for which it is taken.
-/

namespace FrameCourier.Time

open Text

/-! ## Blanks -/

theorem isBlank_of_isDigit {c : Char} (digit : c.isDigit = true) : isBlank c = false := by
  simp only [Char.isDigit, Bool.and_eq_true, decide_eq_true_eq, UInt32.le_iff_toNat_le] at digit
  have low : 48 ≤ c.toNat := digit.1
  have high : c.toNat ≤ 57 := digit.2
  rw [Bool.eq_false_iff]
  intro blank
  simp only [isBlank, Bool.or_eq_true, Bool.and_eq_true, decide_eq_true_eq, beq_iff_eq] at blank
  omega

theorem trimStart_cons {c : Char} (notBlank : isBlank c = false) (cs : List Char) :
    trimStart (c :: cs) = c :: cs := by
  simp [trimStart, notBlank]

/-- A padded number starts with a digit, before which nothing is trimmed. -/
theorem padded_append (width n : Nat) (rest : List Char) :
    ∃ c cs, (padded width n).toList ++ rest = c :: cs ∧ c.isDigit = true ∧
      trimStart ((padded width n).toList ++ rest) = (padded width n).toList ++ rest := by
  obtain ⟨c, digits, equal⟩ := List.exists_cons_of_ne_nil (padded_ne_nil width n)
  have digit : c.isDigit = true := allDigits_padded width n c (by simp [equal])
  refine ⟨c, digits ++ rest, by rw [equal]; rfl, digit, ?_⟩
  rw [equal, List.cons_append, trimStart_cons (isBlank_of_isDigit digit)]

/-! ## The parts -/

theorem relaxedCharacter_cons {c : Char} (notBlank : isBlank c = false) (cs : List Char) :
    relaxedCharacter c (c :: cs) = .ok cs := by
  simp [relaxedCharacter, trimStart_cons notBlank, character]

theorem relaxedNumber_padded {low high n : Nat} (least : low ≤ n) (greatest : n ≤ high)
    (short : high < 100) (rest : List Char) :
    relaxedNumber low high ((padded 2 n).toList ++ rest) = .ok (n, rest) := by
  obtain ⟨-, -, -, -, trimmed⟩ := padded_append 2 n rest
  have fits : n < 10 ^ 2 := by omega
  unfold relaxedNumber
  rw [trimmed, digitsUpTo_padded (by decide) fits]
  simp [bind, Except.bind, within, least, greatest, pure, Except.pure]

theorem relaxedYear_yearText {year : Int} (low : -262143 ≤ year) (high : year ≤ 262142)
    {rest : List Char} (ends : EndsDigitChars rest) :
    relaxedYear ((Instant.yearText year).toList ++ rest) = .ok (year, rest) := by
  have inRange : (decide (year < Number.leastInt32) || decide (Number.greatestInt32 < year)) =
      false := by
    simp only [Number.leastInt32, Number.greatestInt32, Bool.or_eq_false_iff]
    exact ⟨decide_eq_false (by omega), decide_eq_false (by omega)⟩
  unfold Instant.yearText
  split
  · next plain =>
    simp only [Bool.and_eq_true, decide_eq_true_eq] at plain
    obtain ⟨c, cs, starts, digit, trimmed⟩ := padded_append 4 year.toNat rest
    have read := digitsUpTo_padded (by decide : 0 < 4)
      (show year.toNat < 10 ^ 4 by omega) rest
    have value : ((year.toNat : Nat) : Int) = year := Int.toNat_of_nonneg plain.1
    unfold relaxedYear
    rw [trimmed, starts]
    rw [starts] at read
    split
    · next equal =>
      cases equal
      exact absurd digit (by decide)
    · next equal =>
      cases equal
      exact absurd digit (by decide)
    · simp only [read, Except.map, bind, Except.bind, value, pure, Except.pure, inRange,
        Bool.false_eq_true, if_false]
  · -- A signed year may have any number of digits.
    have read : digitsUpTo ((padded 4 year.natAbs).toList ++ rest).length
        ((padded 4 year.natAbs).toList ++ rest) = .ok (year.natAbs, rest) := by
      rw [digitsUpTo_append (allDigits_padded 4 _) (padded_ne_nil 4 _)
        (.inr ⟨by simp, ends⟩), digitsValue_padded]
    by_cases negative : year < 0
    · have value : -((year.natAbs : Nat) : Int) = year := by omega
      have written : ("-" ++ padded 4 year.natAbs).toList ++ rest =
          '-' :: ((padded 4 year.natAbs).toList ++ rest) := by
        simp
      rw [if_pos negative, written, relaxedYear, trimStart_cons (by decide)]
      simp only [read, Except.map, bind, Except.bind, value, pure, Except.pure, inRange,
        Bool.false_eq_true, if_false]
    · have value : ((year.natAbs : Nat) : Int) = year := by omega
      have written : ("+" ++ padded 4 year.natAbs).toList ++ rest =
          '+' :: ((padded 4 year.natAbs).toList ++ rest) := by
        simp
      rw [if_neg negative, written, relaxedYear, trimStart_cons (by decide)]
      simp only [read, Except.map, bind, Except.bind, value, pure, Except.pure, inRange,
        Bool.false_eq_true, if_false]

/-- A fraction of up to nine digits is read in nanoseconds. -/
theorem fraction_padded {count n : Nat} (some : 0 < count) (most : count ≤ 9)
    (fits : n < 10 ^ count) {rest : List Char} (ends : EndsDigitChars rest) :
    fraction ('.' :: ((padded count n).toList ++ rest)) =
      .ok (n * Number.tenTo (9 - count), rest) := by
  have digits := allDigits_padded count n
  have length := length_padded some fits
  have read : digitsUpTo 9 ((padded count n).toList ++ rest) = .ok (n, rest) := by
    rw [digitsUpTo_append digits (padded_ne_nil count n) (.inr ⟨by omega, ends⟩),
      digitsValue_padded]
  have counted : (((padded count n).toList ++ rest).takeWhile Char.isDigit).take 9 =
      (padded count n).toList := by
    rw [takeWhile_digitChars digits ends, List.take_of_length_le (by omega)]
  simp only [fraction, read, counted, length, dropWhile_digitChars digits ends, bind, Except.bind,
    pure, Except.pure]

theorem fraction_fractionText {nanoseconds : Nat} (fits : nanoseconds < nanosecondsPerSecond) :
    fraction ((Instant.fractionText nanoseconds).toList ++ ['Z']) = .ok (nanoseconds, ['Z']) := by
  have ends : EndsDigitChars ['Z'] := by
    rintro c ⟨⟩
    rfl
  unfold nanosecondsPerSecond at fits
  unfold Instant.fractionText
  split
  · next zero =>
    rw [zero]
    rfl
  split
  · next milli =>
    have read := fraction_padded (by decide : 0 < 3) (by decide)
      (show nanoseconds / 1000000 < 10 ^ 3 by omega) ends
    have whole : nanoseconds / 1000000 * Number.tenTo (9 - 3) = nanoseconds :=
      Nat.div_mul_cancel (Nat.dvd_of_mod_eq_zero milli)
    rw [whole] at read
    rw [String.toList_append]
    exact read
  split
  · next micro =>
    have read := fraction_padded (by decide : 0 < 6) (by decide)
      (show nanoseconds / 1000 < 10 ^ 6 by omega) ends
    have whole : nanoseconds / 1000 * Number.tenTo (9 - 6) = nanoseconds :=
      Nat.div_mul_cancel (Nat.dvd_of_mod_eq_zero micro)
    rw [whole] at read
    rw [String.toList_append]
    exact read
  · have read := fraction_padded (by decide : 0 < 9) (by decide)
      (show nanoseconds < 10 ^ 9 by omega) ends
    rw [show nanoseconds * Number.tenTo (9 - 9) = nanoseconds from Nat.mul_one _] at read
    rw [String.toList_append]
    exact read

/-! ## The whole -/

/-- Parts that the relaxed notation has digits for. -/
structure Parts.InRange (parts : Parts) : Prop where
  leastYear : -262143 ≤ parts.year
  greatestYear : parts.year ≤ 262142
  leastMonth : 1 ≤ parts.month
  greatestMonth : parts.month ≤ 12
  leastDay : 1 ≤ parts.day
  greatestDay : parts.day ≤ 31
  hour : parts.hour ≤ 23
  minute : parts.minute ≤ 59
  second : parts.second ≤ 60
  nanosecond : parts.nanosecond < nanosecondsPerSecond

namespace Instant

/-- The parts of an instant as they are written. -/
def parts (t : Instant) : Parts :=
  let date := Date.ofDays t.day
  ⟨date.year, date.month, date.day, t.secondOfDay / 3600, t.secondOfDay / 60 % 60,
    t.secondOfDay % 60 + t.nanoseconds / nanosecondsPerSecond,
    t.nanoseconds % nanosecondsPerSecond, 0⟩

/-- A leap second comes at the end of a minute only, as clocks have it. -/
def LeapsAtMinuteEnd (t : Instant) : Prop :=
  nanosecondsPerSecond ≤ t.nanoseconds → t.seconds % 60 = 59

instance (t : Instant) : Decidable t.LeapsAtMinuteEnd :=
  inferInstanceAs (Decidable (nanosecondsPerSecond ≤ t.nanoseconds → t.seconds % 60 = 59))

/-- The instant that is read for what is written of one: a leap second within a minute is taken
for the next second. -/
def reread (t : Instant) : Instant :=
  if within : nanosecondsPerSecond ≤ t.nanoseconds ∧ t.seconds % 60 ≠ 59 then
    ⟨t.seconds + 1, t.nanoseconds - nanosecondsPerSecond, by
      obtain ⟨low, high, most⟩ := t.valid
      unfold secondsPerDay at *
      omega⟩
  else t

theorem reread_eq_self_iff {t : Instant} : t.reread = t ↔ t.LeapsAtMinuteEnd := by
  unfold reread LeapsAtMinuteEnd
  split
  · next within =>
    refine iff_of_false (fun same => ?_) fun ends => within.2 (ends within.1)
    have seconds := congrArg Instant.seconds same
    simp only at seconds
    omega
  · next outside => simpa using outside

theorem seconds_reread (t : Instant) : t.reread.seconds =
    t.seconds + if nanosecondsPerSecond ≤ t.nanoseconds ∧ t.seconds % 60 ≠ 59 then 1 else 0 := by
  unfold reread
  split <;> simp [*]

theorem nanoseconds_reread (t : Instant) : t.reread.nanoseconds =
    t.nanoseconds -
      if nanosecondsPerSecond ≤ t.nanoseconds ∧ t.seconds % 60 ≠ 59 then nanosecondsPerSecond
      else 0 := by
  unfold reread
  split <;> simp [*]

/-- The day of an instant is in a year that an instant can be in. -/
theorem year_day (t : Instant) :
    -262143 ≤ (Date.ofDays t.day).year ∧ (Date.ofDays t.day).year ≤ 262142 := by
  obtain ⟨low, high, -⟩ := t.valid
  have first : firstDay + epochDay = daysBeforeYear (-262143) := by decide +kernel
  have last : lastDay + 1 + epochDay = daysBeforeYear (262142 + 1) := by decide +kernel
  unfold secondsPerDay at low high
  have since : firstDay ≤ t.day := by
    simp only [day, secondsPerDay]
    omega
  have before : t.day < lastDay + 1 := by
    simp only [day, secondsPerDay]
    omega
  exact Date.year_ofDays (by omega) (by omega)

theorem secondOfDay_lt (t : Instant) : t.secondOfDay < 86400 := by
  simp only [secondOfDay, secondsPerDay]
  omega

theorem inRange_parts (t : Instant) : t.parts.InRange := by
  obtain ⟨leastYear, greatestYear⟩ := t.year_day
  obtain ⟨-, -, leastMonth, greatestMonth, leastDay, greatestDay, -⟩ := Date.ofDays_spec t.day
  have secondOfDay := t.secondOfDay_lt
  have most := t.valid.2.2
  unfold nanosecondsPerSecond at most
  refine ⟨leastYear, greatestYear, leastMonth, greatestMonth, leastDay, greatestDay, ?_, ?_, ?_,
    Nat.mod_lt _ (by decide)⟩
  all_goals
    simp only [parts, nanosecondsPerSecond]
    omega

/-- The parts of an instant are those of the one that is read. -/
theorem toInstant_parts (t : Instant) : t.parts.toInstant = .ok t.reread := by
  obtain ⟨leastYear, greatestYear⟩ := t.year_day
  obtain ⟨-, valid, -, -, -, -, same⟩ := Date.ofDays_spec t.day
  have most := t.valid.2.2
  have secondOfDay : (t.secondOfDay : Int) = t.seconds % secondsPerDay := by
    simp only [Instant.secondOfDay, secondsPerDay]
    omega
  have second : t.parts.second = t.secondOfDay % 60 + t.nanoseconds / nanosecondsPerSecond := rfl
  have seconds : t.day * secondsPerDay + (t.parts.hour : Int) * 3600 + (t.parts.minute : Int) * 60 +
      ((if t.parts.second = 60 then 59 else t.parts.second : Nat) : Int) - 0 =
      t.reread.seconds := by
    have hour : t.parts.hour = t.secondOfDay / 3600 := rfl
    have minute : t.parts.minute = t.secondOfDay / 60 % 60 := rfl
    rw [seconds_reread]
    unfold nanosecondsPerSecond at *
    simp only [day, secondsPerDay] at *
    split <;> split <;> omega
  have nanoseconds : t.parts.nanosecond +
      (if t.parts.second = 60 then nanosecondsPerSecond else 0) = t.reread.nanoseconds := by
    have nanosecond : t.parts.nanosecond = t.nanoseconds % nanosecondsPerSecond := rfl
    rw [nanoseconds_reread]
    unfold nanosecondsPerSecond secondsPerDay at *
    split <;> split <;> omega
  have made : make? t.reread.seconds t.reread.nanoseconds = some t.reread := by
    unfold make?
    rw [dif_pos t.reread.valid]
  have date : (⟨t.parts.year, t.parts.month, t.parts.day⟩ : Date) = Date.ofDays t.day := rfl
  have noOffset : t.parts.offset = 0 := rfl
  have year : t.parts.year = (Date.ofDays t.day).year := rfl
  simp only [Parts.toInstant, date, noOffset, same]
  rw [if_neg, if_neg, seconds, nanoseconds, made]
  · simp [secondsPerDay]
  · simp only [valid, Bool.not_true, Bool.or_false, Bool.or_eq_true, decide_eq_true_eq]
    omega

theorem toList_text (t : Instant) : t.text.toList =
    (yearText t.parts.year).toList ++ '-' :: ((padded 2 t.parts.month).toList ++
      '-' :: ((padded 2 t.parts.day).toList ++ 'T' :: ((padded 2 t.parts.hour).toList ++
      ':' :: ((padded 2 t.parts.minute).toList ++ ':' :: ((padded 2 t.parts.second).toList ++
      ((fractionText t.parts.nanosecond).toList ++ ['Z'])))))) := by
  simp [text, parts]

/-- What is written of an instant is read, as that instant unless it is a leap second within a
minute. -/
theorem readRelaxed_text (t : Instant) : readRelaxed t.text = .ok t.reread := by
  have inRange := t.inRange_parts
  have dash : ∀ rest, EndsDigitChars ('-' :: rest) := by
    rintro rest c ⟨⟩
    rfl
  have dateBehind : ∀ cs, dateEnd ('T' :: cs) = .ok cs := fun cs => rfl
  have offsetRead : relaxedOffset (trimStart ['Z']) = .ok (0, []) := by decide +kernel
  have nothing : (trimStart []).isEmpty = true := rfl
  simp only [readRelaxed, toList_text,
    relaxedYear_yearText inRange.leastYear inRange.greatestYear (dash _),
    relaxedCharacter_cons (show isBlank '-' = false by decide),
    relaxedCharacter_cons (show isBlank ':' = false by decide),
    relaxedNumber_padded inRange.leastMonth inRange.greatestMonth (by decide),
    relaxedNumber_padded inRange.leastDay inRange.greatestDay (by decide), dateBehind,
    relaxedNumber_padded (Nat.zero_le _) inRange.hour (by decide),
    relaxedNumber_padded (Nat.zero_le _) inRange.minute (by decide),
    relaxedNumber_padded (Nat.zero_le _) inRange.second (by decide),
    fraction_fractionText inRange.nanosecond, offsetRead, nothing, bind, Except.bind, Bool.not_true,
    Bool.false_eq_true, if_false]
  exact t.toInstant_parts

end Instant

end FrameCourier.Time
