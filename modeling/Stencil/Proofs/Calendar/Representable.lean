import Mathlib
import Stencil.Proofs.Calendar.Days
import Stencil.Proofs.Calendar.DefaultText

/-!
# Instants that can come up

Every instant that is made lies in the calendar, and a leap second is the last second of its minute:
local time and UTC are whole minutes apart. Such an instant is made again from its date and its time
of day, all of which fit into the fields of the default text.
-/

namespace Stencil.Calendar

/-- A second of the calendar. Only the last second of a minute may be followed by a leap second. -/
structure Instant.Representable (t : Instant) : Prop where
  inCalendar : inCalendar t.days = true
  leap : t.leap = true → t.seconds % 60 = 59

/-! ### Made from numbers -/

section

variable {t : Instant}

theorem Instant.representable_ofSeconds {seconds : Int} (h : ofSeconds? seconds = some t) :
    t.Representable := by
  rw [ofSeconds?] at h
  split at h
  · next hIn =>
    obtain rfl := Option.some.inj h
    exact ⟨hIn, nofun⟩
  · cases h

theorem Instant.representable_ofMillis {millis : Int} (h : ofMillis? millis = some t) :
    t.Representable := representable_ofSeconds h

/-- Second 60 is kept apart from second 59 of the same minute, in UTC as in local time. -/
theorem Instant.representable_ofLocal {date : Civil} {hour minute second : Nat} {offset : Int}
    (hOffset : offset % 60 = 0) (h : ofLocal? date hour minute second offset = some t) :
    t.Representable := by
  simp only [ofLocal?] at h
  split at h
  · split at h
    · next hIn =>
      obtain rfl := Option.some.inj h
      refine ⟨hIn, fun hLeap => ?_⟩
      have hSecond : second = 60 := of_decide_eq_true hLeap
      simp only [hSecond]
      omega
    · cases h
  · cases h

/-! ### Made from texts -/

variable {cs rest : List Char}

theorem mod_of_takeHoursMinutes {between : Step Unit} {n : Nat}
    (h : takeHoursMinutes between cs = some (n, rest)) : n % 60 = 0 := by
  simp only [takeHoursMinutes, Option.bind_eq_bind, Option.bind_eq_some_iff] at h
  obtain ⟨hours, -, -, -, minutes, -, h⟩ := h
  split at h
  · obtain ⟨rfl, -⟩ := Prod.mk.inj (Option.some.inj h)
    omega
  · cases h

theorem mod_of_takeOffset {minus : List Char} {between : Step Unit} {offset : Int}
    (h : takeOffset minus between cs = some (offset, rest)) : offset % 60 = 0 := by
  cases cs with
  | nil => cases h
  | cons sign cs =>
    rw [takeOffset] at h
    split at h
    · obtain ⟨⟨n, more⟩, hTake, hEq⟩ := Option.map_eq_some_iff.1 h
      obtain ⟨rfl, -⟩ := Prod.mk.inj hEq
      have hMod := mod_of_takeHoursMinutes hTake
      omega
    · split at h
      · obtain ⟨⟨n, more⟩, hTake, hEq⟩ := Option.map_eq_some_iff.1 h
        obtain ⟨rfl, -⟩ := Prod.mk.inj hEq
        have hMod := mod_of_takeHoursMinutes hTake
        omega
      · cases h

theorem Rfc3339.mod_of_takeZone {offset : Int} (h : takeZone cs = some (offset, rest)) :
    offset % 60 = 0 := by
  rw [takeZone.eq_def] at h
  split at h
  · cases h
    rfl
  · cases h
    rfl
  · exact mod_of_takeOffset h

theorem Rfc3339.representable_of_read (h : Rfc3339.read? cs = some t) : t.Representable := by
  -- The zone is the thirteenth thing that is read.
  iterate 12 obtain ⟨_, -, h⟩ := Option.bind_eq_some_iff.1 h
  obtain ⟨⟨offset, rest⟩, hZone, h⟩ := Option.bind_eq_some_iff.1 h
  dsimp only at h
  split at h
  · exact Instant.representable_ofLocal (mod_of_takeZone hZone) h
  · cases h

theorem Rfc2822.mod_of_takeZone {offset : Int} (h : takeZone cs = some (offset, rest)) :
    offset % 60 = 0 := by
  simp only [takeZone] at h
  split at h
  · obtain ⟨hours, -, hEq⟩ := Option.map_eq_some_iff.1 h
    obtain ⟨rfl, -⟩ := Prod.mk.inj hEq
    omega
  · exact mod_of_takeOffset h

theorem Rfc2822.representable_of_read (h : Rfc2822.read? cs = some t) : t.Representable := by
  iterate 12 obtain ⟨_, -, h⟩ := Option.bind_eq_some_iff.1 h
  obtain ⟨⟨offset, rest⟩, hZone, h⟩ := Option.bind_eq_some_iff.1 h
  dsimp only at h
  split at h
  · exact Instant.representable_ofLocal (mod_of_takeZone hZone) h
  · cases h

theorem Plain.representable_of_readFormat {format : String} (h : readFormat? cs format = some t) :
    t.Representable := by
  obtain ⟨f, -, hInstant⟩ := Option.bind_eq_some_iff.1 h
  exact Instant.representable_ofLocal rfl hInstant

theorem Plain.representable_of_read (h : Plain.read? cs = some t) : t.Representable := by
  rw [Plain.read?, Option.or_eq_some_iff] at h
  rcases h with h | ⟨-, h⟩
  · obtain ⟨format, -, hFormat⟩ := List.exists_of_findSome?_eq_some h
    exact representable_of_readFormat hFormat
  · exact representable_of_readFormat h

end

/-! ### Made again from the fields -/

namespace Civil

/-- The year of a day is no further from 1970 than the day has years, and some. -/
theorem natAbs_year_ofDays {days : Int} (hFirst : firstDay ≤ days) (hLast : days ≤ lastDay) :
    (ofDays days).year.natAbs < 300000 := by
  have hFirstDay : firstDay = -96465292 := by decide
  have hLastDay : lastDay = 95026236 := by decide
  obtain ⟨era, d, rfl⟩ := exists_eraDay days
  have hDay := d.dayOfEra_mem
  have hYear := d.yearOfEra_mem
  rw [ofDays_eraDay]
  simp only [daysPerEra, epochOffset] at *
  split <;> omega

theorem month_lt_of_exists {c : Civil} (h : c.exists? = true) : c.month < 100 := by
  simp only [exists?, Bool.and_eq_true, decide_eq_true_eq] at h
  omega

theorem daysInMonth_le (year : Int) (month : Nat) : daysInMonth year month ≤ 31 := by
  simp only [daysInMonth]
  repeat' split
  all_goals decide

theorem day_lt_of_exists {c : Civil} (h : c.exists? = true) : c.day < 100 := by
  simp only [exists?, Bool.and_eq_true, decide_eq_true_eq] at h
  have hDays := daysInMonth_le c.year c.month
  omega

end Civil

namespace Instant

variable {t : Instant}

theorem clock_lt (t : Instant) : t.clock < 86400 := by
  rw [clock]
  omega

theorem hour_le (t : Instant) : t.hour ≤ 23 := by
  have hClock := t.clock_lt
  rw [hour]
  omega

theorem minute_le (t : Instant) : t.minute ≤ 59 := by
  rw [minute]
  omega

theorem second_le (t : Instant) : t.second ≤ 60 := by
  rw [second]
  split <;> omega

theorem Representable.fits (h : t.Representable) : t.fields.Fits where
  year := by
    have hIn := h.inCalendar
    rw [Calendar.inCalendar, Bool.and_eq_true, decide_eq_true_eq, decide_eq_true_eq] at hIn
    have hMax : 300000 ≤ maxNumber := by decide
    exact (Civil.natAbs_year_ofDays hIn.1 hIn.2).le.trans hMax
  month := Civil.month_lt_of_exists (Civil.exists_ofDays t.days)
  day := Civil.day_lt_of_exists (Civil.exists_ofDays t.days)
  hour := t.hour_le.trans_lt (by decide)
  minute := t.minute_le.trans_lt (by decide)
  second := t.second_le.trans_lt (by decide)

/-- Second 60 shows that there is a leap second, and no other second does. -/
theorem Representable.second_eq_sixty_iff (h : t.Representable) :
    t.second = 60 ↔ t.leap = true := by
  have hLeap := h.leap
  rw [second, clock]
  cases hLeapSecond : t.leap with
  | false =>
    simp only [Bool.false_eq_true, ↓reduceIte, iff_false]
    omega
  | true =>
    have hMod := hLeap hLeapSecond
    simp only [↓reduceIte, iff_true]
    omega

/-- The seconds of the day are counted without the leap second. -/
theorem Representable.clock_eq (h : t.Representable) :
    t.hour * 3600 + t.minute * 60 + min t.second 59 = t.clock := by
  have hLeap := h.leap
  rw [hour, minute, second]
  cases hLeapSecond : t.leap with
  | false =>
    simp only [Bool.false_eq_true, ↓reduceIte]
    omega
  | true =>
    have hMod := hLeap hLeapSecond
    have hClock : t.clock % 60 = 59 := by
      rw [clock]
      omega
    simp only [↓reduceIte]
    omega

theorem Representable.ofLocal_fields (h : t.Representable) :
    ofLocal? t.date t.hour t.minute t.second 0 = some t := by
  have hDays : t.date.days = t.days := Civil.days_ofDays t.days
  have hSeconds : t.date.days * 86400 + ((t.hour : Int) * 3600 + (t.minute : Int) * 60 +
      (min t.second 59 : Nat)) - 0 = t.seconds := by
    have hClock := h.clock_eq
    rw [hDays, days]
    rw [clock] at hClock
    omega
  have hLeap : decide (t.second = 60) = t.leap := by
    rw [Bool.eq_iff_iff, decide_eq_true_eq]
    exact h.second_eq_sixty_iff
  have hIn : Calendar.inCalendar t.date.days = true := hDays.symm ▸ h.inCalendar
  have hAgain : Calendar.inCalendar (t.seconds / 86400) = true := h.inCalendar
  simp only [ofLocal?]
  rw [if_pos ⟨Civil.exists_ofDays t.days, hIn, t.hour_le, t.minute_le, t.second_le, by decide⟩,
    hSeconds, hAgain, if_pos rfl, hLeap]

theorem Representable.instant_fields (h : t.Representable) : t.fields.instant? = some t :=
  h.ofLocal_fields

end Instant

end Stencil.Calendar
