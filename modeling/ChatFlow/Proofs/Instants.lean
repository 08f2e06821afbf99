/-
This file shows that instants are read as they are written, if their years have four digits, and
that what is written for any other instant is read as none.

The parts of a date and of a time have fixed widths, so a written instant is read part by part, and
what is left to show is that its date exists and that its parts add up to it. A leap second stands
at the last second of its minute, since offsets are whole minutes (`Instant.WellFormed`). A year
that has more digits or is negative is written with a sign, which only a plain date may begin with,
and no plain date has a time behind it.
-/

import ChatFlow.Proofs.Conversion
import ChatFlow.Proofs.Dates
import ChatFlow.Proofs.Numerals
import ChatFlow.Time.Instant

namespace ChatFlow.Instant

/-! ### Numbers of a fixed width -/

section

variable {width number : Nat} (wide : 0 < width) (fits : number < tenTo width)

include wide fits

theorem length_padded : (padded width number).length = width := by
  have short := (Nat.length_toDigits_le_iff (by decide) wide).mpr fits
  rw [padded, List.length_append, List.length_replicate]
  omega

omit wide fits in
theorem isDigit_of_mem_padded {letter : Char} (member : letter ∈ padded width number) :
    letter.isDigit = true := by
  rw [padded, List.mem_append] at member
  rcases member with zero | digit
  · rw [(List.mem_replicate.mp zero).2]
    rfl
  · exact Nat.isDigit_of_mem_toDigits (by decide) (by decide) digit

omit wide fits in
theorem digitsValue_padded : Decimal.digitsValue 0 (padded width number) = number := by
  rw [padded, Decimal.digitsValue_append, Decimal.digitsValue_zeros,
    Decimal.digitsValue_toDigits, Nat.zero_mul, Nat.zero_add]

theorem fixed?_padded (rest : List Char) :
    fixed? width (padded width number ++ rest) = some (number, rest) := by
  have length := length_padded wide fits
  have front : (padded width number ++ rest).take width = padded width number :=
    List.take_left' length
  have digits : (padded width number).all Char.isDigit = true :=
    List.all_eq_true.mpr fun _ => isDigit_of_mem_padded
  rw [fixed?, front, List.drop_left' length, digits, digitsValue_padded]
  simp [length]

end

/-- Three digits in front of a letter are read as a fraction. -/
theorem fraction?_padded {millis : Nat} (fits : millis < 1000) {letter : Char}
    (other : letter.isDigit = false) (rest : List Char) :
    fraction? (padded 3 millis ++ letter :: rest) = some (millis, letter :: rest) := by
  have length : (padded 3 millis).length = 3 := length_padded (by decide) fits
  have front : (padded 3 millis ++ letter :: rest).takeWhile Char.isDigit = padded 3 millis := by
    rw [List.takeWhile_append_of_pos fun _ => isDigit_of_mem_padded,
      List.takeWhile_cons_of_neg (by simp [other]), List.append_nil]
  have back : (padded 3 millis ++ letter :: rest).dropWhile Char.isDigit = letter :: rest := by
    rw [List.dropWhile_append_of_pos fun _ => isDigit_of_mem_padded,
      List.dropWhile_cons_of_neg (by simp [other])]
  have full : (padded 3 millis).isEmpty = false := by
    rw [List.isEmpty_eq_false_iff, ← List.length_pos_iff, length]
    decide
  rw [fraction?, front, back, full, if_neg Bool.false_ne_true]
  dsimp only
  rw [List.take_left' length, digitsValue_padded]

theorem behind?_eq_some_iff {letter : Char} {text rest : List Char} :
    behind? letter text = some rest ↔ text = letter :: rest :=
  Text.afterStart_eq_some_iff

theorem behind?_cons (letter : Char) (rest : List Char) :
    behind? letter (letter :: rest) = some rest :=
  behind?_eq_some_iff.mpr rfl

/-! ### Dates with a time -/

theorem exists?_eq_true_iff {date : Date} :
    date.exists? = true ↔ (Date.firstYear ≤ date.year ∧ date.year ≤ Date.lastYear) ∧
      (1 ≤ date.month ∧ date.month ≤ 12) ∧
        1 ≤ date.day ∧ date.day ≤ Date.daysInMonth date.year date.month := by
  simp only [Date.exists?, Bool.and_eq_true, decide_eq_true_eq, and_assoc]

theorem daysInMonth_le (year : Int) (month : Nat) : Date.daysInMonth year month ≤ 31 := by
  rw [Date.daysInMonth]
  split
  · split <;> decide
  · split <;> decide

/-- A date of a year with four digits, and a time of day. -/
structure Stamp where
  date : Date
  hour : Nat
  minute : Nat
  second : Nat
  millis : Nat
  dateExists : date.exists? = true
  yearFits : 0 ≤ date.year ∧ date.year ≤ 9999
  hourFits : hour ≤ 23
  minuteFits : minute ≤ 59
  secondFits : second ≤ 60
  millisFits : millis < 1000

namespace Stamp

variable (stamp : Stamp)

/-- A stamp as text. -/
def write : List Char :=
  padded 4 stamp.date.year.natAbs ++ '-' :: (padded 2 stamp.date.month ++
    '-' :: (padded 2 stamp.date.day ++ 'T' :: (padded 2 stamp.hour ++
      ':' :: (padded 2 stamp.minute ++ ':' :: (padded 2 stamp.second ++
        '.' :: (padded 3 stamp.millis ++ ['Z']))))))

/-- The instant of a stamp. -/
def instant : Instant where
  seconds := stamp.date.toDays * daySeconds + (stamp.hour * 3600 + stamp.minute * 60 +
    (if stamp.second = 60 then 59 else stamp.second : Nat))
  millis := stamp.millis
  leap := stamp.second = 60

/-- A stamp is read as its instant. -/
theorem ofDateTime?_write : ofDateTime? stamp.write = some stamp.instant := by
  obtain ⟨-, ⟨-, monthFits⟩, -, dayFits⟩ := exists?_eq_true_iff.mp stamp.dateExists
  replace dayFits := Nat.le_trans dayFits (daysInMonth_le _ _)
  have year : (stamp.date.year.natAbs : Int) = stamp.date.year :=
    Int.natAbs_of_nonneg stamp.yearFits.1
  have short : stamp.date.year.natAbs < 10000 := by
    have most := stamp.yearFits.2
    omega
  have two : ∀ {number most : Nat}, number ≤ most → most < 100 → ∀ rest : List Char,
      fixed? 2 (padded 2 number ++ rest) = some (number, rest) :=
    fun fits short => fixed?_padded (by decide) (Nat.lt_of_le_of_lt fits short)
  have years := fixed?_padded (show 0 < 4 by decide) short
  have months := two monthFits (by decide)
  have days := two dayFits (by decide)
  have hours := two stamp.hourFits (by decide)
  have minutes := two stamp.minuteFits (by decide)
  have seconds := two stamp.secondFits (by decide)
  have millis := fraction?_padded stamp.millisFits (show 'Z'.isDigit = false from rfl) []
  have ending : offset? ['Z'] = some (0, []) := rfl
  have lawful : ¬(!([] : List Char).isEmpty || !stamp.date.exists? || decide (23 < stamp.hour) ||
      decide (59 < stamp.minute) || decide (60 < stamp.second)) = true := by
    simp [stamp.dateExists, stamp.hourFits, stamp.minuteFits, stamp.secondFits]
  rw [ofDateTime?, write, years]
  dsimp only [bind, Option.bind]
  simp only [behind?_cons, months, days, hours, minutes, seconds, millis, Option.some_or]
  rw [ending]
  dsimp only
  rw [year, if_neg lawful, instant, Int.zero_mul, Int.sub_zero]
  rfl

end Stamp

/-! ### Instants -/

/-- The milliseconds are less than a second, and a leap second is the last one of its minute. -/
structure WellFormed (instant : Instant) : Prop where
  millis : instant.millis < 1000
  leap : instant.leap = true → instant.seconds % 60 = 59

/-- The date of an instant. -/
def date (instant : Instant) : Date :=
  Date.ofDays (instant.seconds / daySeconds)

/-- The year of an instant has four digits, and no sign. -/
def IsPlain (instant : Instant) : Prop :=
  0 ≤ instant.date.year ∧ instant.date.year ≤ 9999

instance (instant : Instant) : Decidable instant.IsPlain :=
  inferInstanceAs (Decidable (_ ∧ _))

/-- A leap second is shown behind the last second of its minute, and is told apart by that. -/
theorem shown_second {second : Nat} {leap : Bool} (short : second < 60)
    (last : leap = true → second = 59) :
    decide ((second + if leap then 1 else 0) = 60) = leap ∧
      (if (second + if leap then 1 else 0) = 60 then 59 else second + if leap then 1 else 0) =
        second := by
  cases leap with
  | false =>
    rw [if_neg Bool.false_ne_true]
    have early : ¬second + 0 = 60 := Nat.ne_of_lt short
    exact ⟨decide_eq_false early, if_neg early⟩
  | true =>
    rw [if_pos rfl, last rfl]
    exact ⟨rfl, rfl⟩

section

variable {instant : Instant} (wellFormed : instant.WellFormed) (plain : instant.IsPlain)

include wellFormed plain

/-- An instant is written as a stamp, and is the instant of that stamp. -/
theorem exists_stamp : ∃ stamp : Stamp, stamp.write = instant.write ∧ stamp.instant = instant := by
  obtain ⟨seconds, millis, leap⟩ := instant
  obtain ⟨short, last⟩ := wellFormed
  obtain ⟨least, most⟩ := plain
  dsimp only at short last
  have there : (date ⟨seconds, millis, leap⟩).exists? = true :=
    Date.exists_ofDays (Int.le_trans (by decide) least) (Int.le_trans most (by decide))
  refine ⟨{
    date := date ⟨seconds, millis, leap⟩
    hour := (seconds % daySeconds).toNat / 3600
    minute := (seconds % daySeconds).toNat / 60 % 60
    second := (seconds % daySeconds).toNat % 60 + if leap then 1 else 0
    millis := millis
    dateExists := there
    yearFits := ⟨least, most⟩
    hourFits := by
      rw [daySeconds]
      omega
    minuteFits := by omega
    secondFits := by split <;> omega
    millisFits := short }, ?_, ?_⟩
  · have unsigned : writeYear (date ⟨seconds, millis, leap⟩).year =
        padded 4 (date ⟨seconds, millis, leap⟩).year.natAbs := by
      rw [writeYear, if_neg (Int.not_lt.mpr least), if_neg (Int.not_lt.mpr most)]
    rw [write, Stamp.write]
    dsimp only [date] at unsigned ⊢
    rw [unsigned]
    simp only [List.append_assoc, List.cons_append]
  · have days : (date ⟨seconds, millis, leap⟩).toDays = seconds / daySeconds :=
      Date.toDays_ofDays _
    rw [Stamp.instant]
    dsimp only
    rw [days, Instant.mk.injEq]
    have within : (seconds % 86400).toNat % 60 < 60 := Nat.mod_lt _ (by decide)
    have final : leap = true → (seconds % 86400).toNat % 60 = 59 := by
      intro is
      have ends := last is
      omega
    obtain ⟨flag, shown⟩ := shown_second within final
    refine ⟨?_, rfl, flag⟩
    unfold daySeconds
    omega

/-- An instant with a plain year is read as it is written. -/
theorem ofText?_write_of_plain : ofText? instant.write = some instant := by
  obtain ⟨stamp, written, same⟩ := exists_stamp wellFormed plain
  rw [← written, ofText?, stamp.ofDateTime?_write, same]
  rfl

end

/-! ### Texts that are read as instants -/

/-- A character that a date may have before its last number. -/
def IsDatePart (letter : Char) : Prop :=
  letter.isDigit = true ∨ Text.isBlank letter = true ∨ letter = '-' ∨ letter = '+'

theorem fixed?_eq_some {count number : Nat} {text rest : List Char}
    (read : fixed? count text = some (number, rest)) :
    ∃ digits, text = digits ++ rest ∧ digits.length = count ∧
      (∀ letter ∈ digits, letter.isDigit = true) ∧ number = Decimal.digitsValue 0 digits := by
  rw [fixed?] at read
  split at read
  · rename_i full
    rw [Bool.and_eq_true, decide_eq_true_eq] at full
    cases read
    exact ⟨_, (List.take_append_drop count text).symm, full.1, List.all_eq_true.mp full.2, rfl⟩
  · cases read

theorem digitsUpTo?_eq_some {most : Option Nat} {number : Nat} {text rest : List Char}
    (read : digitsUpTo? most text = some (number, rest)) :
    ∃ digits, text = digits ++ rest ∧ digits ≠ [] ∧
      ∀ letter ∈ digits, letter.isDigit = true := by
  have ofPrefix : ∀ digits, digits <+: text.takeWhile Char.isDigit →
      (if digits.isEmpty then none
        else some (Decimal.digitsValue 0 digits, text.drop digits.length)) = some (number, rest) →
      ∃ digits, text = digits ++ rest ∧ digits ≠ [] ∧
        ∀ letter ∈ digits, letter.isDigit = true := by
    intro digits begins read
    split at read
    · cases read
    · rename_i full
      cases read
      have front := begins.trans (List.takeWhile_prefix _)
      refine ⟨digits, (List.prefix_iff_eq_append.mp front).symm, fun none => full ?_, ?_⟩
      · rw [none]
        rfl
      · exact fun letter member => List.mem_takeWhile_imp (begins.subset member)
  cases most with
  | none => exact ofPrefix _ List.prefix_rfl read
  | some most => exact ofPrefix _ (List.take_prefix _ _) read

theorem year?_eq_some {year : Int} {text rest : List Char} (read : year? text = some (year, rest)) :
    ∃ figures, text = figures ++ rest ∧ figures ≠ [] ∧ ∀ letter ∈ figures, IsDatePart letter := by
  obtain ⟨sign, signed, joined⟩ := Conversion.exists_cutSign text
  have numbered : ∃ most number, digitsUpTo? most (Decimal.cutSign text).2 =
      some (number, rest) := by
    rw [year?] at read
    split at read
    · rename_i unsigned cut
      obtain ⟨⟨number, behind⟩, found, same⟩ := Option.map_eq_some_iff.mp read
      cases same
      exact ⟨none, number, by rw [cut]; exact found⟩
    · rename_i unsigned cut
      obtain ⟨⟨number, behind⟩, found, same⟩ := Option.map_eq_some_iff.mp read
      cases same
      exact ⟨some 4, number, by rw [cut]; exact found⟩
  obtain ⟨most, number, found⟩ := numbered
  obtain ⟨digits, split, full, plain⟩ := digitsUpTo?_eq_some found
  refine ⟨sign ++ digits, ?_, List.append_ne_nil_of_right_ne_nil _ full, ?_⟩
  · rw [List.append_assoc, ← split, ← joined]
  · intro letter member
    rcases List.mem_append.mp member with before | behind
    · rcases signed with rfl | rfl | rfl
      · cases before
      · exact .inr (.inr (.inr (List.mem_singleton.mp before)))
      · exact .inr (.inr (.inl (List.mem_singleton.mp before)))
    · exact .inl (plain letter behind)

theorem exists_trimStart (text : List Char) :
    ∃ gap, text = gap ++ Text.trimStart text ∧ ∀ letter ∈ gap, IsDatePart letter :=
  ⟨text.takeWhile Text.isBlank, (List.takeWhile_append_dropWhile).symm,
    fun _ member => .inr (.inl (List.mem_takeWhile_imp member))⟩

/-- A text that is read as a date consists of parts of dates, and has a hyphen behind its year. -/
theorem parts_of_ofDate? {text : List Char} {instant : Instant}
    (read : ofDate? text = some instant) :
    (∀ letter ∈ text, IsDatePart letter) ∧ ∃ before after, text = before ++ '-' :: after ∧
      before ≠ [] := by
  obtain ⟨⟨year, rest⟩, years, read⟩ := Option.bind_eq_some_iff.mp read
  obtain ⟨afterYear, first, read⟩ := Option.bind_eq_some_iff.mp read
  obtain ⟨⟨month, rest⟩, months, read⟩ := Option.bind_eq_some_iff.mp read
  obtain ⟨afterMonth, second, read⟩ := Option.bind_eq_some_iff.mp read
  obtain ⟨⟨day, rest⟩, days, read⟩ := Option.bind_eq_some_iff.mp read
  dsimp only at first months second days read
  obtain ⟨figures, yearText, full, figureParts⟩ := year?_eq_some years
  obtain ⟨monthDigits, monthText, -, monthParts⟩ := digitsUpTo?_eq_some months
  obtain ⟨dayDigits, dayText, -, dayParts⟩ := digitsUpTo?_eq_some days
  obtain ⟨yearGap, yearStart, yearBlank⟩ := exists_trimStart text
  obtain ⟨monthGap, monthStart, monthBlank⟩ := exists_trimStart afterYear
  obtain ⟨dayGap, dayStart, dayBlank⟩ := exists_trimStart afterMonth
  have nothing : rest = [] := by
    split at read
    · cases read
    · rename_i lawful
      rw [Bool.or_eq_true, not_or, Bool.not_eq_true', Bool.not_eq_false] at lawful
      exact List.isEmpty_iff.mp lawful.1
  rw [behind?_eq_some_iff] at first second
  have joined : text = (yearGap ++ figures) ++ '-' :: afterYear := by
    rw [yearStart, yearText, first, List.append_assoc]
  refine ⟨?_, _, _, joined, List.append_ne_nil_of_right_ne_nil _ full⟩
  rw [joined, monthStart, monthText, second, dayStart, dayText, nothing]
  intro letter member
  simp only [List.mem_append, List.mem_cons, List.not_mem_nil, or_false] at member
  rcases member with (gap | figure) | rfl | gap | digit | rfl | gap | digit
  · exact yearBlank letter gap
  · exact figureParts letter figure
  · exact .inr (.inr (.inl rfl))
  · exact monthBlank letter gap
  · exact .inl (monthParts letter digit)
  · exact .inr (.inr (.inl rfl))
  · exact dayBlank letter gap
  · exact .inl (dayParts letter digit)

/-- A text that is read as date and time begins with a year of four digits. -/
theorem year_of_ofDateTime? {text : List Char} {instant : Instant}
    (read : ofDateTime? text = some instant) :
    ∃ digits after, text = digits ++ '-' :: after ∧ digits.length = 4 ∧
      ∀ letter ∈ digits, letter.isDigit = true := by
  obtain ⟨⟨year, rest⟩, years, read⟩ := Option.bind_eq_some_iff.mp read
  obtain ⟨after, first, -⟩ := Option.bind_eq_some_iff.mp read
  obtain ⟨digits, joined, length, plain, -⟩ := fixed?_eq_some years
  refine ⟨digits, after, ?_, length, plain⟩
  rw [joined, behind?_eq_some_iff.mp first]

/-- A text that is read as an instant has a hyphen behind its year. -/
theorem hyphen_of_ofText? {text : List Char} {instant : Instant}
    (read : ofText? text = some instant) :
    ∃ before after, text = before ++ '-' :: after ∧ before ≠ [] ∧
      ∀ letter ∈ before, IsDatePart letter := by
  rcases Option.or_eq_some_iff.mp read with timed | ⟨-, dated⟩
  · obtain ⟨digits, after, joined, length, plain⟩ := year_of_ofDateTime? timed
    refine ⟨digits, after, joined, fun none => ?_, fun letter member => .inl (plain letter member)⟩
    rw [none] at length
    cases length
  · obtain ⟨parts, before, after, joined, full⟩ := parts_of_ofDate? dated
    refine ⟨before, after, joined, full, fun letter member => parts letter ?_⟩
    rw [joined]
    exact List.mem_append_left _ member

/-- An instant whose year is not plain is written as a text that is read as none. -/
theorem ofText?_write_of_not_plain {instant : Instant} (signed : ¬instant.IsPlain) :
    ofText? instant.write = none := by
  obtain ⟨sign, rest, written, mark⟩ : ∃ sign rest, instant.write = sign :: rest ∧
      sign.isDigit = false := by
    rw [write, ← date, writeYear]
    split
    · exact ⟨'-', _, rfl, rfl⟩
    · split
      · exact ⟨'+', _, rfl, rfl⟩
      · exact absurd ⟨Int.not_lt.mp ‹_›, Int.not_lt.mp ‹_›⟩ signed
  rw [ofText?, Option.or_eq_none_iff]
  constructor
  · refine Option.eq_none_iff_forall_ne_some.mpr fun other read => ?_
    obtain ⟨digits, after, joined, length, plain⟩ := year_of_ofDateTime? read
    cases digits with
    | nil => cases length
    | cons first digits =>
      rw [written] at joined
      cases (List.cons.inj joined).1
      rw [plain sign List.mem_cons_self] at mark
      cases mark
  · refine Option.eq_none_iff_forall_ne_some.mpr fun other read => ?_
    have timed : 'T' ∈ instant.write := by
      rw [write]
      simp
    have part := (parts_of_ofDate? read).1 'T' timed
    revert part
    unfold IsDatePart
    decide

/-! ### Instants that are read -/

theorem millis_of_fraction? {text rest : List Char} {millis : Nat}
    (read : fraction? text = some (millis, rest)) : millis < 1000 := by
  rw [fraction?] at read
  split at read
  · cases read
  · rename_i full
    cases read
    have length : ((text.takeWhile Char.isDigit ++ ['0', '0']).take 3).length ≤ 3 :=
      List.length_take_le _ _
    refine Nat.lt_of_lt_of_le (Decimal.digitsValue_lt fun letter member => ?_)
      (Nat.pow_le_pow_right (by decide) length)
    rcases List.mem_append.mp (List.mem_of_mem_take member) with digit | zero
    · exact List.mem_takeWhile_imp digit
    · rcases List.mem_pair.mp zero with rfl | rfl <;> rfl

/-- A time is read on with fewer than a thousand milliseconds, whether or not it has a fraction. -/
theorem exists_millis {α : Type} {text : List Char} {goOn : Nat × List Char → Option α}
    {result : α}
    (read : (match behind? '.' text with
      | some text => (fraction? text).bind goOn
      | none => (some (0, text)).bind goOn) = some result) :
    ∃ millis rest, millis < 1000 ∧ goOn (millis, rest) = some result := by
  split at read
  · obtain ⟨⟨millis, rest⟩, fraction, read⟩ := Option.bind_eq_some_iff.mp read
    exact ⟨millis, rest, millis_of_fraction? fraction, read⟩
  · exact ⟨0, text, by decide, read⟩

/-- What is read as date and time is well-formed: an offset has whole minutes. -/
theorem wellFormed_of_ofDateTime? {text : List Char} {instant : Instant}
    (read : ofDateTime? text = some instant) : instant.WellFormed := by
  obtain ⟨⟨year, rest⟩, -, read⟩ := Option.bind_eq_some_iff.mp read
  obtain ⟨rest, -, read⟩ := Option.bind_eq_some_iff.mp read
  obtain ⟨⟨month, rest⟩, -, read⟩ := Option.bind_eq_some_iff.mp read
  obtain ⟨rest, -, read⟩ := Option.bind_eq_some_iff.mp read
  obtain ⟨⟨day, rest⟩, -, read⟩ := Option.bind_eq_some_iff.mp read
  obtain ⟨rest, -, read⟩ := Option.bind_eq_some_iff.mp read
  obtain ⟨⟨hour, rest⟩, -, read⟩ := Option.bind_eq_some_iff.mp read
  obtain ⟨rest, -, read⟩ := Option.bind_eq_some_iff.mp read
  obtain ⟨⟨minute, rest⟩, -, read⟩ := Option.bind_eq_some_iff.mp read
  obtain ⟨rest, -, read⟩ := Option.bind_eq_some_iff.mp read
  obtain ⟨⟨second, rest⟩, -, read⟩ := Option.bind_eq_some_iff.mp read
  obtain ⟨millis, rest, short, read⟩ := exists_millis read
  obtain ⟨⟨offset, rest⟩, -, read⟩ := Option.bind_eq_some_iff.mp read
  dsimp only at read
  split at read
  · cases read
  · cases read
    refine ⟨short, fun leap => ?_⟩
    dsimp only at leap ⊢
    rw [if_pos (of_decide_eq_true leap), daySeconds]
    omega

theorem wellFormed_of_ofDate? {text : List Char} {instant : Instant}
    (read : ofDate? text = some instant) : instant.WellFormed := by
  obtain ⟨⟨year, rest⟩, -, read⟩ := Option.bind_eq_some_iff.mp read
  obtain ⟨rest, -, read⟩ := Option.bind_eq_some_iff.mp read
  obtain ⟨⟨month, rest⟩, -, read⟩ := Option.bind_eq_some_iff.mp read
  obtain ⟨rest, -, read⟩ := Option.bind_eq_some_iff.mp read
  obtain ⟨⟨day, rest⟩, -, read⟩ := Option.bind_eq_some_iff.mp read
  dsimp only at read
  split at read
  · cases read
  · cases read
    exact ⟨show 0 < 1000 by decide, fun leap => Bool.noConfusion leap⟩

theorem wellFormed_of_ofText? {text : List Char} {instant : Instant}
    (read : ofText? text = some instant) : instant.WellFormed := by
  rcases Option.or_eq_some_iff.mp read with timed | ⟨-, dated⟩
  · exact wellFormed_of_ofDateTime? timed
  · exact wellFormed_of_ofDate? dated

theorem wellFormed_of_ofMillis? {millis : Int} {instant : Instant}
    (given : ofMillis? millis = some instant) : instant.WellFormed := by
  rw [ofMillis?] at given
  split at given
  · cases given
    refine ⟨?_, fun leap => Bool.noConfusion leap⟩
    dsimp only
    omega
  · cases given

/-! ### Written instants have no blanks around them -/

theorem exists_cons_eq_padded (width number : Nat) :
    ∃ digit rest, padded width number = digit :: rest ∧ digit.isDigit = true := by
  cases digits : padded width number with
  | nil =>
    rw [padded, List.append_eq_nil_iff] at digits
    exact absurd digits.2 Nat.toDigits_ne_nil
  | cons digit rest =>
    exact ⟨digit, rest, rfl, isDigit_of_mem_padded (digits ▸ List.mem_cons_self)⟩

theorem trim_write (instant : Instant) : Text.trim instant.write = instant.write := by
  obtain ⟨first, starts, visible⟩ : ∃ first, instant.write.head? = some first ∧
      Text.isBlank first = false := by
    obtain ⟨digit, rest, digits, plain⟩ := exists_cons_eq_padded 4
      instant.date.year.natAbs
    have shown := Text.isBlank_eq_false_of_isDigit plain
    rw [write, ← date, writeYear, digits]
    split
    · exact ⟨'-', rfl, rfl⟩
    · split
      · exact ⟨'+', rfl, rfl⟩
      · exact ⟨digit, rfl, shown⟩
  have ends : instant.write.getLast? = some 'Z' := List.getLast?_concat
  exact Text.trim_of_ends starts ends visible rfl

/-- A written instant is read as itself or as none. -/
theorem ofText?_trim_write {instant : Instant} (wellFormed : instant.WellFormed) :
    ofText? (Text.trim instant.write) = some instant ∨
      ofText? (Text.trim instant.write) = none := by
  rw [trim_write]
  by_cases plain : instant.IsPlain
  · exact .inl (ofText?_write_of_plain wellFormed plain)
  · exact .inr (ofText?_write_of_not_plain plain)

end ChatFlow.Instant
