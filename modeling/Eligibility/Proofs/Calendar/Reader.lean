import Eligibility.Calendar.Reader
import Eligibility.Calendar.Rfc3339
import Eligibility.Proofs.Calendar.Date
import Eligibility.Proofs.Calendar.Stamp
import Eligibility.Proofs.Text.Digit
set_option autoImplicit false

/-!
# Calendar: reading back what is written

A stamp that is written in UTC to the millisecond, with its mark as an offset, is read
back as itself up to the millisecond.  The reader looks for fixed marks at fixed places
and for digits between them; a number that fills its width puts the marks where the
reader looks, and is read back by its digits.  For the same reason what is written has
the form of a date-time.
-/

namespace Eligibility.Calendar

open Stamp (padded clockText)

/-! ## Numbers -/

namespace Reader

theorem takeNumber_digits {digits : List Char} (h : ∀ c ∈ digits, c.isDigit = true) (value : Nat)
    (rest : List Char) :
    takeNumber digits.length value (digits ++ rest) =
      some (Nat.ofDigitChars 10 digits value, rest) := by
  induction digits generalizing value with
  | nil => rfl
  | cons c digits ih =>
    have hc : c.isDigit = true := h c List.mem_cons_self
    have hdigits : ∀ d ∈ digits, d.isDigit = true := fun d hd => h d (List.mem_cons_of_mem c hd)
    rw [List.length_cons, List.cons_append, takeNumber, if_pos hc, ih hdigits,
      Nat.ofDigitChars_cons, Nat.mul_comm 10 value]

/-- A number that fits its width is read back. -/
theorem takeNumber_padded {width n : Nat} (hwidth : 0 < width) (h : n < 10 ^ width)
    (rest : List Char) : takeNumber width 0 (padded width n ++ rest) = some (n, rest) := by
  have hlength : (padded width n).length = width := Stamp.length_padded hwidth h
  have hread := takeNumber_digits (@Stamp.isDigit_of_mem_padded width n) 0 rest
  rwa [hlength, Stamp.ofDigitChars_padded] at hread

end Reader

/-! ## Dates -/

namespace Date

/-- A date as a stamp writes it. -/
def text (d : Date) : List Char :=
  padded 4 d.year ++ '-' :: (padded 2 d.month ++ '-' :: padded 2 d.day)

theorem getD_monthLengths_le (year i : Nat) : (monthLengths year).getD i 0 ≤ 31 := by
  have hle : ∀ length ∈ monthLengths year, length ≤ 31 := by
    intro length h
    simp only [monthLengths, List.mem_cons, List.not_mem_nil, or_false] at h
    split at h <;> omega
  rw [List.getD_eq_getElem?_getD]
  cases hi : (monthLengths year)[i]? with
  | none => simp
  | some length => exact hle length (List.mem_of_getElem? hi)

/-- The parts of a date fit the widths that they are written in. -/
theorem bounds_of_isValid {d : Date} (h : d.isValid = true) :
    d.year < 10 ^ 4 ∧ d.month < 10 ^ 2 ∧ d.day < 10 ^ 2 := by
  simp only [isValid, Bool.and_eq_true, decide_eq_true_eq] at h
  have hday := getD_monthLengths_le d.year (d.month - 1)
  omega

theorem mem_text {d : Date} {c : Char} (h : c ∈ d.text) : c.isDigit = true ∨ c = '-' := by
  simp only [text, List.mem_append, List.mem_cons] at h
  rcases h with h | h | h | h | h
  · exact .inl (Stamp.isDigit_of_mem_padded h)
  · exact .inr h
  · exact .inl (Stamp.isDigit_of_mem_padded h)
  · exact .inr h
  · exact .inl (Stamp.isDigit_of_mem_padded h)

theorem length_text {d : Date} (h : d.isValid = true) : d.text.length = 10 := by
  obtain ⟨hyear, hmonth, hday⟩ := bounds_of_isValid h
  simp [text, Stamp.length_padded (by decide) hyear, Stamp.length_padded (by decide) hmonth,
    Stamp.length_padded (by decide) hday]

end Date

namespace Reader

/-- A padded number opens with a digit. -/
theorem padded_eq_cons {width n : Nat} (hwidth : 0 < width) (h : n < 10 ^ width) :
    ∃ c cs, padded width n = c :: cs ∧ c.isDigit = true := by
  have hlength : (padded width n).length = width := Stamp.length_padded hwidth h
  cases htext : padded width n with
  | nil => simp [htext] at hlength; omega
  | cons c cs => exact ⟨c, cs, rfl, Stamp.isDigit_of_mem_padded (htext ▸ List.mem_cons_self)⟩

/-- The date of a stamp ends where its marks say. -/
theorem dateLength?_text {d : Date} (h : d.isValid = true) (rest : List Char) :
    dateLength? (d.text ++ rest) = some 10 := by
  obtain ⟨hyear, hmonth, -⟩ := Date.bounds_of_isValid h
  have hlength : (padded 4 d.year).length = 4 := Stamp.length_padded (by decide) hyear
  obtain ⟨c, cs, hmonthText, hc⟩ := padded_eq_cons (by decide) hmonth
  have hmark : (d.text ++ rest)[4]? = some '-' := by
    rw [Date.text, List.append_assoc, List.getElem?_append_right (by omega), hlength]
    rfl
  have hdigit : (d.text ++ rest)[5]? = some c := by
    rw [Date.text, List.append_assoc, List.getElem?_append_right (by omega), hlength, hmonthText]
    rfl
  have hten : 10 ≤ (d.text ++ rest).length := by
    rw [List.length_append, Date.length_text h]
    omega
  have hweek : c ≠ 'W' := Text.ne_of_isDigit hc (by decide)
  have hshort : ¬ (d.text ++ rest).length < 7 := by omega
  have hseven : (d.text ++ rest).length ≠ 7 := by omega
  simp only [dateLength?, hshort, hseven, hmark, hdigit, if_true, if_false, Option.some.injEq,
    hweek]

theorem day?_text {d : Date} (h : d.isValid = true) : day? d.text = some d.dayNumber := by
  obtain ⟨hyear, hmonth, hday⟩ := Date.bounds_of_isValid h
  obtain ⟨c, cs, hmonthText, hc⟩ := padded_eq_cons (by decide) hmonth
  have hmonthDay : monthDay? true d.year (padded 2 d.month ++ '-' :: padded 2 d.day) =
      some d.dayNumber := by
    have hrest := takeNumber_padded (by decide) hday []
    rw [List.append_nil] at hrest
    simp [monthDay?, takeNumber_padded (by decide) hmonth, afterHyphen?, Text.afterList?, hrest, h]
  have hweek : c ≠ 'W' := Text.ne_of_isDigit hc (by decide)
  rw [hmonthText, List.cons_append] at hmonthDay
  simp only [day?, Date.text, takeNumber_padded (by decide) hyear, Option.bind_eq_bind,
    Option.bind_some, List.head?_cons, beq_self_eq_true, if_true, List.tail_cons, hmonthText,
    List.cons_append]
  split
  · next hcons => exact absurd (List.cons.inj hcons).1 hweek
  · exact hmonthDay

/-! ## Times of day -/

/-- A time of day to the second. -/
def shortText (seconds : Nat) : List Char :=
  clockText (seconds / 60) ++ ':' :: padded 2 (seconds % 60)

/-- A time of day as a stamp writes it to the millisecond. -/
def timeText (seconds millis : Nat) : List Char := shortText seconds ++ '.' :: padded 3 millis

theorem follow?_colon (tail c : Char) (rest : List Char) :
    follow? tail true (':' :: c :: rest) = some (.field (c :: rest)) := by
  simp [follow?]

theorem follow?_point (tail c : Char) (rest : List Char) :
    follow? tail true ('.' :: c :: rest) = some (.fraction (c :: rest)) := by
  simp [follow?]

/-- A fraction of three digits is read back in thousandths. -/
theorem fraction?_padded (tail : Char) {millis : Nat} (h : millis < 10 ^ 3) :
    fraction? tail (padded 3 millis) = some (millis * 1000, tail == '\x00') := by
  have hlength : (padded 3 millis).length = 3 := Stamp.length_padded (by decide) h
  have hread := takeNumber_padded (by decide) h []
  rw [List.append_nil] at hread
  have hthousand : tenPow (6 - 3) = 1000 := by decide
  simp [fraction?, hlength, hread, hthousand]

/-- A time of day is read back from its text. -/
theorem clock?_timeText (tail : Char) {seconds millis : Nat} (hseconds : seconds < 86400)
    (hmillis : millis < 10 ^ 3) :
    clock? tail (timeText seconds millis) =
      some (⟨seconds / 60 / 60, seconds / 60 % 60, seconds % 60, millis * 1000⟩,
        tail == '\x00') := by
  have hhour : seconds / 60 / 60 < 10 ^ 2 := by omega
  have hminute : seconds / 60 % 60 < 10 ^ 2 := by omega
  have hsecond : seconds % 60 < 10 ^ 2 := by omega
  obtain ⟨m, ms, hminuteText, -⟩ := padded_eq_cons (by decide) hminute
  obtain ⟨s, ss, hsecondText, -⟩ := padded_eq_cons (by decide) hsecond
  obtain ⟨f, fs, hmillisText, -⟩ := padded_eq_cons (by decide) hmillis
  have hminuteRead := takeNumber_padded (by decide) hminute
  have hsecondRead := takeNumber_padded (by decide) hsecond
  have hfraction := fraction?_padded tail hmillis
  rw [hminuteText] at hminuteRead
  rw [hsecondText] at hsecondRead
  rw [hmillisText] at hfraction
  simp only [List.cons_append] at hminuteRead hsecondRead
  simp [clock?, timeText, shortText, clockText, List.append_assoc,
    takeNumber_padded (by decide) hhour, hminuteText, hsecondText, hmillisText, follow?_colon,
    follow?_point, hminuteRead, hsecondRead, hfraction]

/-- A time of day is read back from its text to the second. -/
theorem clock?_shortText (tail : Char) {seconds : Nat} (hseconds : seconds < 86400) :
    clock? tail (shortText seconds) =
      some (⟨seconds / 60 / 60, seconds / 60 % 60, seconds % 60, 0⟩, tail == '\x00') := by
  have hhour : seconds / 60 / 60 < 10 ^ 2 := by omega
  have hminute : seconds / 60 % 60 < 10 ^ 2 := by omega
  have hsecond : seconds % 60 < 10 ^ 2 := by omega
  obtain ⟨m, ms, hminuteText, -⟩ := padded_eq_cons (by decide) hminute
  obtain ⟨s, ss, hsecondText, -⟩ := padded_eq_cons (by decide) hsecond
  have hminuteRead := takeNumber_padded (by decide) hminute
  have hsecondRead := takeNumber_padded (by decide) hsecond []
  rw [hminuteText] at hminuteRead
  rw [hsecondText, List.append_nil] at hsecondRead
  simp only [List.cons_append] at hminuteRead
  have hend : follow? tail true [] = some (.finish (tail == '\x00')) := rfl
  simp [clock?, shortText, clockText, List.append_assoc, takeNumber_padded (by decide) hhour,
    hminuteText, hsecondText, follow?_colon, hminuteRead, hsecondRead, hend]

theorem mem_shortText {seconds : Nat} {c : Char} (h : c ∈ shortText seconds) :
    c.isDigit = true ∨ c = ':' := by
  simp only [shortText, clockText, List.mem_append, List.mem_cons] at h
  rcases h with (h | h | h) | h | h
  · exact .inl (Stamp.isDigit_of_mem_padded h)
  · exact .inr h
  · exact .inl (Stamp.isDigit_of_mem_padded h)
  · exact .inr h
  · exact .inl (Stamp.isDigit_of_mem_padded h)

theorem mem_timeText {seconds millis : Nat} {c : Char} (h : c ∈ timeText seconds millis) :
    c.isDigit = true ∨ c = ':' ∨ c = '.' := by
  simp only [timeText, List.mem_append, List.mem_cons] at h
  rcases h with h | h | h
  · exact (mem_shortText h).imp_right .inl
  · exact .inr (.inr h)
  · exact .inl (Stamp.isDigit_of_mem_padded h)

/-- No character of a time of day opens an offset. -/
theorem not_opensOffset {c : Char} (h : c.isDigit = true ∨ c = ':' ∨ c = '.') :
    opensOffset c = false := by
  rcases h with hc | rfl | rfl
  · have hplus : c ≠ '+' := Text.ne_of_isDigit hc (by decide)
    have hminus : c ≠ '-' := Text.ne_of_isDigit hc (by decide)
    have hmark : c ≠ 'Z' := Text.ne_of_isDigit hc (by decide)
    simp [opensOffset, hplus, hminus, hmark]
  · rfl
  · rfl

/-- The characters of the offset of UTC. -/
def utcOffset : List Char := ['+', '0', '0', ':', '0', '0']

theorem offset?_utc : offset? false utcOffset.tail = some 0 := by decide

/-- A text of a time of day in front of the offset of UTC is read as the time in UTC. -/
theorem time?_of_clock? {text : List Char} {clock : Clock} {clean : Bool}
    (htext : ∀ c ∈ text, c.isDigit = true ∨ c = ':' ∨ c = '.')
    (hclock : clock? '+' text = some (clock, clean)) :
    time? (text ++ utcOffset) = some (clock, some 0) := by
  have hfront : ∀ c ∈ text, (!opensOffset c) = true := by
    intro c hc
    rw [not_opensOffset (htext c hc)]
    rfl
  have htake : (text ++ utcOffset).takeWhile (fun c => !opensOffset c) = text := by
    rw [List.takeWhile_append_of_pos hfront]
    simp [utcOffset, opensOffset]
  have hdrop : (text ++ utcOffset).dropWhile (fun c => !opensOffset c) = '+' :: utcOffset.tail := by
    rw [List.dropWhile_append_of_pos hfront]
    simp [utcOffset, opensOffset]
  simp [time?, htake, hdrop, hclock, offset?_utc]

end Reader

/-! ## Stamps -/

namespace Stamp

theorem date_isValid (s : Stamp) : s.date.isValid = true := by
  have hday : s.ticks / dayTicks < dayLimit :=
    Nat.div_lt_of_lt_mul (Nat.mul_comm dayLimit dayTicks ▸ s.bounded)
  exact Date.isValid_ofDayNumber hday

theorem dayTicks_pos : 0 < dayTicks := Nat.mul_pos (by decide) (by decide)

theorem timeTicks_lt (s : Stamp) : s.timeTicks < dayTicks := Nat.mod_lt _ dayTicks_pos

/-- The whole seconds since midnight. -/
def seconds (s : Stamp) : Nat := s.timeTicks / secondTicks

/-- The whole milliseconds of the second. -/
def millis (s : Stamp) : Nat := s.timeTicks % secondTicks / 1000

theorem seconds_lt (s : Stamp) : s.seconds < 86400 := by
  have h := s.timeTicks_lt
  simp only [seconds, dayTicks, secondTicks] at h ⊢
  omega

theorem millis_lt (s : Stamp) : s.millis < 10 ^ 3 := by
  simp only [millis, secondTicks]
  omega

theorem utcMillis_eq (s : Stamp) :
    s.utcMillis = s.date.text ++ 'T' :: (Reader.timeText s.seconds s.millis ++ ['Z']) := by
  -- The date is a variable here: with the date of a stamp in its place the kernel computes it.
  have hlayout : ∀ d : Date, padded 4 d.year ++ '-' :: padded 2 d.month ++ '-' :: padded 2 d.day ++
      'T' :: clockText (s.seconds / 60) ++ ':' :: padded 2 (s.seconds % 60) ++
        '.' :: padded 3 s.millis ++ ['Z'] =
      d.text ++ 'T' :: (Reader.timeText s.seconds s.millis ++ ['Z']) := by
    intro d
    simp [Date.text, Reader.timeText, Reader.shortText, List.append_assoc]
  exact hlayout s.date

/-- The stamp with what is below a millisecond cut off. -/
def floorMillis (s : Stamp) : Stamp where
  ticks := s.ticks / 1000 * 1000
  offset := s.offset
  bounded := Nat.lt_of_le_of_lt (Nat.div_mul_le_self s.ticks 1000) s.bounded

/-- The day, the seconds and the milliseconds of a stamp make it up to the millisecond. -/
theorem floorMillis_ticks (s : Stamp) :
    s.ticks / dayTicks * dayTicks + (s.seconds * secondTicks + s.millis * 1000) =
      s.floorMillis.ticks := by
  simp only [seconds, millis, timeTicks, floorMillis, dayTicks, secondTicks]
  omega

theorem dayNumber_date (s : Stamp) : s.date.dayNumber = s.ticks / dayTicks := by
  rw [date, Date.dayNumber_ofDayNumber]

/-- The clock of a stamp, as its text is read. -/
def clock (s : Stamp) : Reader.Clock where
  hour := s.seconds / 60 / 60
  minute := s.seconds / 60 % 60
  second := s.seconds % 60
  micro := s.millis * 1000

theorem seconds_clock (s : Stamp) : s.clock.seconds = s.seconds := by
  simp only [clock, Reader.Clock.seconds]
  omega

/-- The day and the clock of a stamp are those of the stamp up to the millisecond. -/
theorem stampOf?_clock {s : Stamp} (h : s.offset = some 0) :
    Reader.stampOf? s.date.dayNumber (s.clock, some 0) = some s.floorMillis := by
  have hseconds := s.seconds_lt
  have hhour : s.clock.hour < 24 := by
    simp only [clock]
    omega
  have hminute : s.clock.minute < 60 := Nat.mod_lt _ (by decide)
  have hsecond : s.clock.second < 60 := Nat.mod_lt _ (by decide)
  have hmicro : s.clock.micro = s.millis * 1000 := rfl
  rw [dayNumber_date]
  simp only [Reader.stampOf?, hhour, hminute, hsecond, decide_true, Bool.and_self, if_true, ofDay?,
    seconds_clock, hmicro, floorMillis_ticks]
  exact ofTicks?_eq_some.mpr ⟨rfl, h⟩

/-- A date in front of a time that is read is read as the stamp of both. -/
theorem read?_of_stampOf? {d : Date} (hvalid : d.isValid = true) {text : List Char}
    {parts : Reader.Clock × Option Int} {t : Stamp} (htime : Reader.time? text = some parts)
    (hstamp : Reader.stampOf? d.dayNumber parts = some t) :
    read? (String.ofList (d.text ++ 'T' :: text)) = some t := by
  simp only [read?, String.toList_ofList, Reader.dateLength?_text hvalid, Option.bind_eq_bind,
    Option.bind_some, List.take_left' (Date.length_text hvalid),
    List.drop_left' (Date.length_text hvalid), Reader.day?_text hvalid, htime, hstamp]

/-- A date in front of a time that is read as the clock of a stamp is read as the stamp. -/
theorem read?_of_time? {s : Stamp} (h : s.offset = some 0) {text : List Char}
    (htime : Reader.time? text = some (s.clock, some 0)) :
    read? (String.ofList (s.date.text ++ 'T' :: text)) = some s.floorMillis :=
  read?_of_stampOf? s.date_isValid htime (stampOf?_clock h)

/-- What is written in UTC to the millisecond is read back to the millisecond. -/
theorem read?_utcMillis {s : Stamp} (h : s.offset = some 0) :
    read? (String.ofList (s.date.text ++ 'T' ::
      (Reader.timeText s.seconds s.millis ++ Reader.utcOffset))) = some s.floorMillis :=
  read?_of_time? h (Reader.time?_of_clock? (fun _ => Reader.mem_timeText)
    (Reader.clock?_timeText '+' s.seconds_lt s.millis_lt))

/-- What is written in UTC to the second is read back if it has no milliseconds. -/
theorem read?_utcSeconds {s : Stamp} (h : s.offset = some 0) (hmillis : s.millis = 0) :
    read? (String.ofList (s.date.text ++ 'T' ::
      (Reader.shortText s.seconds ++ Reader.utcOffset))) = some s.floorMillis := by
  have hclock : Reader.clock? '+' (Reader.shortText s.seconds) = some (s.clock, false) := by
    rw [Reader.clock?_shortText '+' s.seconds_lt, clock, hmillis]
    rfl
  exact read?_of_time? h
    (Reader.time?_of_clock? (fun _ hc => (Reader.mem_shortText hc).imp_right .inl) hclock)

/-- A stamp of UTC that shows the instant of another stamp, cut off below a millisecond. -/
structure IsUtcMillisOf (t s : Stamp) : Prop where
  offset : t.offset = some 0
  instant : t.instant = s.instant / 1000 * 1000

theorem isUtcMillisOf_floorMillis {s u : Stamp} (h : s.toUtc? = some u) :
    u.floorMillis.IsUtcMillisOf s := by
  obtain ⟨-, hoffset⟩ := ofTicks?_eq_some.mp h
  have hinstant : u.instant = u.ticks := by simp [Stamp.instant, hoffset]
  refine ⟨hoffset, ?_⟩
  rw [← instant_toUtc h, hinstant]
  simp [Stamp.instant, floorMillis, hoffset]

/-- The mark of UTC stands at the end of a stamp only. -/
theorem mark_not_mem (s : Stamp) :
    'Z' ∉ s.date.text ++ 'T' :: Reader.timeText s.seconds s.millis := by
  intro h
  have hdigit : ('Z').isDigit = false := by decide
  rcases List.mem_append.mp h with h | h
  · rcases Date.mem_text h with h | h
    · simp [hdigit] at h
    · simp at h
  · rcases List.mem_cons.mp h with h | h
    · simp at h
    · rcases Reader.mem_timeText h with h | h | h
      · simp [hdigit] at h
      · simp at h
      · simp at h

end Stamp

/-! ## The form of a date-time -/

theorem afterDigits?_digits {digits : List Char} (h : ∀ c ∈ digits, c.isDigit = true)
    (rest : List Char) : afterDigits? digits.length (digits ++ rest) = some rest := by
  induction digits with
  | nil => rfl
  | cons c digits ih =>
    have hc : c.isDigit = true := h c List.mem_cons_self
    have hdigits : ∀ d ∈ digits, d.isDigit = true := fun d hd => h d (List.mem_cons_of_mem c hd)
    rw [List.length_cons, List.cons_append, afterDigits?, if_pos hc, ih hdigits]

theorem afterDigits?_padded {width n : Nat} (hwidth : 0 < width) (h : n < 10 ^ width)
    (rest : List Char) : afterDigits? width (padded width n ++ rest) = some rest := by
  have hlength : (padded width n).length = width := Stamp.length_padded hwidth h
  have hread := afterDigits?_digits (@Stamp.isDigit_of_mem_padded width n) rest
  rwa [hlength] at hread

theorem afterDate?_text {d : Date} (h : d.isValid = true) (rest : List Char) :
    afterDate? (d.text ++ rest) = some rest := by
  obtain ⟨hyear, hmonth, hday⟩ := Date.bounds_of_isValid h
  simp [afterDate?, Date.text, afterPair?, Text.afterList?, List.append_assoc,
    afterDigits?_padded (by decide) hyear, afterDigits?_padded (by decide) hmonth,
    afterDigits?_padded (by decide) hday]

theorem afterTime?_timeText {seconds millis : Nat} (hseconds : seconds < 86400)
    (hmillis : millis < 10 ^ 3) :
    afterTime? (Reader.timeText seconds millis ++ ['Z']) = some ['Z'] := by
  have hhour : seconds / 60 / 60 < 10 ^ 2 := by omega
  have hminute : seconds / 60 % 60 < 10 ^ 2 := by omega
  have hsecond : seconds % 60 < 10 ^ 2 := by omega
  have hfraction : afterFraction? ('.' :: (padded 3 millis ++ ['Z'])) = some ['Z'] := by
    have hdigits : ∀ c ∈ padded 3 millis, c.isDigit = true := fun _ => Stamp.isDigit_of_mem_padded
    have hdrop : (padded 3 millis ++ ['Z']).dropWhile Char.isDigit = ['Z'] := by
      rw [List.dropWhile_append_of_pos hdigits]
      rfl
    obtain ⟨f, fs, hmillisText, hf⟩ := Reader.padded_eq_cons (by decide) hmillis
    rw [hmillisText, List.cons_append] at hdrop
    rw [hmillisText, List.cons_append]
    simp only [afterFraction?, List.head?_cons, Option.map_some, Option.getD_some, hf, if_true,
      hdrop]
  simp [afterTime?, Reader.timeText, Reader.shortText, clockText, afterPair?, Text.afterList?,
    List.append_assoc, afterDigits?_padded (by decide) hhour,
    afterDigits?_padded (by decide) hminute, afterDigits?_padded (by decide) hsecond, hfraction]

theorem Stamp.isDateTimeText_utcMillis (s : Stamp) : isDateTimeText s.utcMillis = true := by
  have htime := afterTime?_timeText s.seconds_lt s.millis_lt
  have hform : ∀ d : Date, d.isValid = true → isDateTimeText
      (d.text ++ 'T' :: (Reader.timeText s.seconds s.millis ++ ['Z'])) = true := by
    intro d hvalid
    simp [isDateTimeText, afterDate?_text hvalid, htime, isOffsetText]
  rw [s.utcMillis_eq]
  exact hform s.date s.date_isValid

end Eligibility.Calendar
