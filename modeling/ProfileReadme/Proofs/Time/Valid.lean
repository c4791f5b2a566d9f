/-
Times that are read are valid ones. Counted time lies on days of the calendar: the arithmetic that
turns a count of days into a year, a month and a day is followed through one era of 400 years, whose
years begin in March.
-/
import ProfileReadme.Proofs.Outcome
import ProfileReadme.Proofs.Time.Written
import ProfileReadme.Schema.Scalar
import ProfileReadme.Yaml.Time

namespace ProfileReadme

namespace Date

/-! ## The years of an era -/

/-- The days of an era before one of its years. -/
def daysBefore (year : Nat) : Nat := 365 * year + year / 4 - year / 100

/-- The day of an era as it would be without leap days before it. -/
def leapless (day : Nat) : Nat := day - day / 1460 + day / 36524 - day / 146096

theorem leapless_mono {a b : Nat} (h : a ≤ b) (hb : b < 146097) : leapless a ≤ leapless b := by
  unfold leapless
  omega

theorem leapless_daysBefore : ∀ year < 400, 365 * year ≤ leapless (daysBefore year) ∧
    (0 < year → leapless (daysBefore year - 1) < 365 * year) := by
  decide +kernel

/-- A year ends after 365 days, or after 366 if it ends in a leap year. -/
theorem daysBefore_next : ∀ year < 399, daysBefore (year + 1) ≤
    daysBefore year + (if isLeap (year + 1) then 366 else 365) := by
  decide +kernel

theorem isLeap_era (year era : Nat) : isLeap (year + era * 400) = isLeap year := by
  have four : (year + era * 400) % 4 = year % 4 := by omega
  have century : (year + era * 400) % 100 = year % 100 := by omega
  have whole : (year + era * 400) % 400 = year % 400 := by omega
  unfold isLeap
  rw [four, century, whole]

/-- The day of an era lies in the year that the division by 365 tells. -/
theorem year_of_day {day : Nat} (h : day < 146097) :
    leapless day / 365 < 400 ∧ daysBefore (leapless day / 365) ≤ day ∧
      day - daysBefore (leapless day / 365) <
        (if isLeap (leapless day / 365 + 1) then 366 else 365) := by
  obtain ⟨y, hy⟩ : ∃ y, y = leapless day / 365 := ⟨_, rfl⟩
  rw [← hy]
  have below : y < 400 := by
    have := leapless_mono (Nat.le_of_lt_succ h) (by decide)
    have last : leapless 146096 = 145999 := by decide
    omega
  -- were it before the first day of the year, its leapless day would be in the year before
  have begun : daysBefore y ≤ day := by
    by_contra early
    have := leapless_mono (a := day) (b := daysBefore y - 1) (by omega)
      (by unfold daysBefore; omega)
    have := (leapless_daysBefore y below).2 (by unfold daysBefore at early; omega)
    omega
  refine ⟨below, begun, ?_⟩
  rcases Nat.lt_or_eq_of_le (Nat.le_of_lt_succ below) with more | rfl
  · have ended : day < daysBefore (y + 1) := by
      by_contra late
      have := leapless_mono (Nat.le_of_not_lt late) h
      have := (leapless_daysBefore (y + 1) (by omega)).1
      omega
    have := daysBefore_next y more
    omega
  · have first : daysBefore 399 = 145731 := by decide
    have last : isLeap (399 + 1) = true := by decide
    rw [if_pos last]
    omega

/-! ## The days of a year that begins in March -/

/-- The month and day of a day of the year. -/
def monthDay (day : Nat) : Nat × Nat :=
  let shifted := (5 * day + 2) / 153
  (if shifted < 10 then shifted + 3 else shifted - 9, day - (153 * shifted + 2) / 5 + 1)

theorem monthDay_isValid : ∀ day < 366, 1 ≤ (monthDay day).1 ∧ (monthDay day).1 ≤ 12 ∧
    1 ≤ (monthDay day).2 ∧ (day < 306 ↔ 2 < (monthDay day).1) ∧
    (monthDay day).2 ≤ daysInMonth (if day = 365 then 2000 else 1999) (monthDay day).1 := by
  decide +kernel

theorem daysInMonth_mono {a b : Nat} (h : isLeap a = true → isLeap b = true) (month : Nat) :
    daysInMonth a month ≤ daysInMonth b month := by
  unfold daysInMonth
  split
  · cases ha : isLeap a with
    | true => exact Nat.le_of_eq (by rw [h ha])
    | false =>
      rw [if_neg Bool.false_ne_true]
      split <;> decide
  · exact Nat.le_refl _

theorem ofDays_eq (days : Int) : ofDays days =
    let era := (days + 719468).fdiv 146097
    let day := (days + 719468 - era * 146097).toNat
    let year := leapless day / 365
    let md := monthDay (day - daysBefore year)
    ⟨((year : Int) + era * 400 + (if md.1 ≤ 2 then 1 else 0)).toNat, md.1, md.2⟩ := rfl

/-- A count of days from 1600 to 9999 gives a day of the calendar. -/
theorem ofDays_isValid {days : Int} (low : -135140 ≤ days) (high : days ≤ 2932896) :
    (ofDays days).IsValid := by
  obtain ⟨era, day, hday, split⟩ : ∃ era day : Nat, day < 146097 ∧
      days + 719468 = era * 146097 + day :=
    ⟨((days + 719468) / 146097).toNat, ((days + 719468) % 146097).toNat, by omega, by omega⟩
  obtain ⟨y, hy⟩ : ∃ y, y = leapless day / 365 := ⟨_, rfl⟩
  obtain ⟨below, begun, ended⟩ := year_of_day hday
  rw [← hy] at below begun ended
  obtain ⟨dayOfYear, hdoy⟩ : ∃ n, n = day - daysBefore y := ⟨_, rfl⟩
  rw [← hdoy] at ended
  obtain ⟨month_pos, month_le, day_pos, spring, day_le⟩ :=
    monthDay_isValid dayOfYear (Nat.lt_of_lt_of_le ended (by split <;> decide))
  obtain ⟨md, hmd⟩ : ∃ md, md = monthDay dayOfYear := ⟨_, rfl⟩
  rw [← hmd] at month_pos month_le day_pos spring day_le
  have value : ofDays days = ⟨y + era * 400 + (if md.1 ≤ 2 then 1 else 0), md.1, md.2⟩ := by
    have hera : (days + 719468).fdiv 146097 = era := by
      rw [Int.fdiv_eq_ediv_of_nonneg _ (by decide)]
      omega
    have hrest : (days + 719468 - era * 146097).toNat = day := by omega
    rw [ofDays_eq]
    simp only [hera, hrest, ← hy, ← hdoy, ← hmd]
    congr 1
    split <;> omega
  rw [value]
  -- a 366th day comes at the end of February, in a calendar year that is a leap year
  have leap : isLeap (if dayOfYear = 365 then 2000 else 1999) = true →
      isLeap (y + era * 400 + (if md.1 ≤ 2 then 1 else 0)) = true := by
    intro isLong
    split at isLong
    · rename_i last
      rw [if_pos (Nat.le_of_not_lt fun later => absurd (spring.2 later) (by omega)),
        Nat.add_right_comm, isLeap_era]
      by_contra short
      rw [if_neg short] at ended
      omega
    · cases isLong
  refine ⟨?_, ?_, month_pos, month_le, day_pos, Nat.le_trans day_le (daysInMonth_mono leap _)⟩
  · show 1 ≤ y + era * 400 + _
    omega
  · show y + era * 400 + _ ≤ 9999
    -- the count ends in December 9999, before the January of the next era
    have first : y = 399 → daysBefore y = 145731 := by rintro rfl; decide
    split
    · rename_i winter
      have := mt spring.1 (Nat.not_lt.2 winter)
      omega
    · omega

end Date

namespace Timestamp

/-! ## Times that are counted -/

theorem ofDate_isValid {d : Date} (h : d.IsValid) : (ofDate d).IsValid :=
  ⟨h, Nat.zero_le _, Nat.zero_le _, Nat.zero_le _, Nat.zero_lt_succ _, fun _ none => by cases none⟩

theorem ofCount_isValid {count : Int} {micros : Nat} {t : Timestamp}
    (h : ofCount count micros = some t) : t.IsValid := by
  unfold ofCount at h
  dsimp only at h
  generalize (if count.natAbs ≤ millisecondsAbove then (count, 0) else _) = p at h
  split at h
  · cases h
  · cases h
    refine ⟨Date.ofDays_isValid ?_ ?_, ?_, ?_, ?_, Nat.mod_lt _ (by decide), ?_⟩
    · rw [Int.fdiv_eq_ediv_of_nonneg _ (by decide)]
      omega
    · rw [Int.fdiv_eq_ediv_of_nonneg _ (by decide)]
      omega
    · show Int.toNat _ / 3600 ≤ 23
      rw [Int.fmod_eq_emod_of_nonneg _ (by decide)]
      omega
    · show Int.toNat _ % 3600 / 60 ≤ 59
      omega
    · show Int.toNat _ % 60 ≤ 59
      omega
    · intro s hs
      cases hs
      decide

theorem ofReal_isValid {x : Binary64} {t : Timestamp} (h : ofReal x = some t) : t.IsValid := by
  unfold ofReal at h
  split at h
  · cases h
  · exact ofCount_isValid h

/-! ## Times that are read -/

theorem twoDigits_lt {cs rest : List Char} {n : Nat} (h : twoDigits cs = some (n, rest)) :
    n < 100 := by
  unfold twoDigits at h
  split at h
  · split at h
    · rename_i a b _ digits
      cases h
      rw [Bool.and_eq_true] at digits
      exact Decimal.ofDigits_lt (by simpa using digits)
    · cases h
  · cases h

theorem readDate_isValid {cs rest : List Char} {d : Date} (h : readDate cs = some (d, rest)) :
    d.IsValid := by
  unfold readDate at h
  simp only [Option.bind_eq_bind, Option.bind_eq_some_iff, Prod.exists] at h
  obtain ⟨_, _, -, _, _, -, _, -, _, _, -, _, -, _, _, -, h⟩ := h
  split at h
  · cases h
    assumption
  · cases h

theorem readFraction_lt {cs rest : List Char} {n : Nat} (h : readFraction cs = some (n, rest)) :
    n < 1000000 := by
  unfold readFraction at h
  split at h
  · split at h
    · dsimp only at h
      split at h
      · cases h
      · cases h
        rename_i cs _ _
        have digits : ∀ c ∈ (cs.takeWhile Char.isDigit).take 6, c.isDigit = true :=
          fun c hc => List.all_eq_true.1 List.all_takeWhile c (List.mem_of_mem_take hc)
        have value := Decimal.ofDigits_lt digits
        have short : ((cs.takeWhile Char.isDigit).take 6).length ≤ 6 := List.length_take_le ..
        revert value short
        generalize (cs.takeWhile Char.isDigit).take 6 = ds
        intro value short
        show _ * 10 ^ _ < 10 ^ 6
        calc Decimal.ofDigits ds * 10 ^ (6 - ds.length)
            < 10 ^ ds.length * 10 ^ (6 - ds.length) :=
              Nat.mul_lt_mul_of_pos_right value (Nat.pow_pos (by decide))
          _ = 10 ^ 6 := by rw [← Nat.pow_add]; congr 1; omega
    · cases h
      decide
  · cases h
    decide

theorem readSeconds_lt {cs rest : List Char} {second micro : Nat}
    (h : readSeconds cs = some (second, micro, rest)) : second ≤ 59 ∧ micro < 1000000 := by
  unfold readSeconds at h
  split at h
  · simp only [Option.bind_eq_bind, Option.bind_eq_some_iff, Prod.exists] at h
    obtain ⟨_, _, -, _, _, fraction, h⟩ := h
    split at h
    · cases h
      exact ⟨by assumption, readFraction_lt fraction⟩
    · cases h
  · cases h
    decide

theorem offset_whole {factor : Int} (unit : factor = 1 ∨ factor = -1) {hours minutes : Nat}
    (hh : hours < 24) (hm : minutes < 60) :
    factor * (hours * 3600 + minutes * 60 : Nat) % 60 = 0 ∧
      (factor * (hours * 3600 + minutes * 60 : Nat)).natAbs < 86400 := by
  rcases unit with rfl | rfl <;> omega

theorem readOffset_whole {cs : List Char} {o : Option Int} (h : readOffset cs = some o) :
    ∀ s ∈ o, s % 60 = 0 ∧ s.natAbs < 86400 := by
  unfold readOffset at h
  split at h
  · cases h
    exact fun _ none => by cases none
  · cases h
    exact fun _ zero => by cases zero; decide
  · cases h
    exact fun _ zero => by cases zero; decide
  · rename_i sign cs _ _
    have signed (factor : Int) (unit : factor = 1 ∨ factor = -1)
        (h : ((twoDigits cs).bind fun p =>
          (twoDigits ((Text.after? [':'] p.2).getD p.2)).bind fun q =>
            if q.2.isEmpty && q.1 < 60 && p.1 < 24 then
              some (some (factor * (p.1 * 3600 + q.1 * 60 : Nat)))
            else none) = some o) : ∀ s ∈ o, s % 60 = 0 ∧ s.natAbs < 86400 := by
      simp only [Option.bind_eq_some_iff, Prod.exists] at h
      obtain ⟨hours, _, -, minutes, _, -, h⟩ := h
      split at h
      · rename_i short
        cases h
        simp only [Bool.and_eq_true, decide_eq_true_eq] at short
        intro s hs
        cases hs
        exact offset_whole unit short.2 short.1.2
      · cases h
    split at h
    · exact signed 1 (.inl rfl) h
    · split at h
      · exact signed (-1) (.inr rfl) h
      · cases h

theorem readFull_isValid {cs : List Char} {t : Timestamp} (h : readFull cs = some t) :
    t.IsValid := by
  unfold readFull at h
  simp only [Option.bind_eq_bind, Option.bind_eq_some_iff, Prod.exists] at h
  obtain ⟨d, _, date, h⟩ := h
  split at h
  · split at h
    · unfold readClock at h
      simp only [Option.bind_eq_bind, Option.bind_eq_some_iff, Prod.exists] at h
      obtain ⟨hour, _, -, _, -, minute, _, -, second, micro, _, seconds, offset, zone, h⟩ := h
      split at h
      · rename_i inDay
        cases h
        simp only [Bool.and_eq_true, decide_eq_true_eq] at inDay
        obtain ⟨hs, hm⟩ := readSeconds_lt seconds
        exact ⟨readDate_isValid date, inDay.1, inDay.2, hs, hm, readOffset_whole zone⟩
      · cases h
    · cases h
  · cases h

/-- Every time that a text names is a valid one. -/
theorem read_isValid {s : String} {t : Timestamp} (h : read s = some t) : t.IsValid := by
  unfold read at h
  dsimp only at h
  split at h
  · rename_i full
    cases h
    exact readFull_isValid full
  · split at h
    · exact ofCount_isValid h
    · exact ofReal_isValid h
    · split at h
      · rename_i date
        cases h
        exact ofDate_isValid (readDate_isValid date)
      · cases h

end Timestamp

/-! ## Times in documents -/

/-- A value that is no date or time that there is not. -/
def Value.Timely : Value → Prop
  | .moment t => t.IsValid
  | .date d => d.IsValid
  | _ => True

theorem Reader.time_isValid {v : Value} (h : v.Timely) {t : Timestamp} (read : time v = .ok t) :
    t.IsValid := by
  unfold time at read
  split at read
  · cases read
    exact h
  · cases read
    exact Timestamp.ofDate_isValid h
  · split at read
    · cases read
      exact Timestamp.ofCount_isValid (by assumption)
    · cases read
  · split at read
    · cases read
      exact Timestamp.ofReal_isValid (by assumption)
    · cases read
  · split at read
    · rename_i offered _
      cases offered with
      | ok s =>
        rw [Checked.andThen_ok] at read
        split at read
        · cases read
          exact Timestamp.read_isValid (by assumption)
        · cases read
      | bad issues => cases read
    · cases read

namespace Yaml.WrittenTime

theorem date_isValid {t : WrittenTime} {d : Date} (h : t.date = .ok d) (year : t.year ≤ 9999) :
    d.IsValid := by
  unfold date at h
  split at h
  · cases h
  · split at h
    · cases h
    · split at h
      · cases h
      · rename_i years months days
        cases h
        rw [not_or] at months days
        exact ⟨Nat.pos_of_ne_zero years, year, Nat.pos_of_ne_zero months.1,
          Nat.le_of_not_lt months.2, Nat.pos_of_ne_zero days.1, Nat.le_of_not_lt days.2⟩

theorem micros_lt {fraction : List Char} (h : ∀ c ∈ fraction, c.isDigit = true) :
    micros fraction < 1000000 := by
  have digits : ∀ c ∈ (fraction ++ List.replicate 6 '0').take 6, c.isDigit = true := by
    intro c hc
    rcases List.mem_append.1 (List.mem_of_mem_take hc) with hc | hc
    · exact h c hc
    · rw [List.eq_of_mem_replicate hc]
      rfl
  have length : ((fraction ++ List.replicate 6 '0').take 6).length = 6 := by
    simp
  have value := Decimal.ofDigits_lt digits
  rw [length] at value
  exact value

theorem offset_whole {z : Zone} {s : Int} (h : offset z = .ok s) :
    s % 60 = 0 ∧ s.natAbs < 86400 := by
  unfold offset at h
  split at h
  · cases h
    decide
  · dsimp only at h
    split at h
    · cases h
      split <;> omega
    · cases h

theorem digits2_lt {cs rest : List Char} {n : Nat} (h : digits2 cs = some (n, rest)) :
    n < 100 :=
  Timestamp.twoDigits_lt h

theorem clock?_fraction {cs : List Char} {c : Clock} (h : clock? cs = some c) :
    ∀ d ∈ c.fraction, d.isDigit = true := by
  unfold clock? at h
  simp only [Option.bind_eq_bind, Option.bind_eq_some_iff, Prod.exists, Option.pure_def] at h
  obtain ⟨_, _, _, -, _, -, _, _, -, _, -, _, _, -, _, -, h⟩ := h
  cases h
  dsimp only
  split
  · exact fun d hd => List.all_eq_true.1 List.all_takeWhile d hd
  · exact fun d hd => by cases hd

theorem read?_spec {cs : List Char} {t : WrittenTime} (h : read? cs = some t) :
    t.year ≤ 9999 ∧ ∀ c ∈ t.clock, ∀ d ∈ c.fraction, d.isDigit = true := by
  unfold read? at h
  simp only [Option.bind_eq_bind, Option.bind_eq_some_iff, Prod.exists, Option.pure_def] at h
  obtain ⟨century, _, hc, rest, _, hr, _, -, _, _, _, -, _, -, _, _, _, -, h⟩ := h
  have := digits2_lt hc
  have := digits2_lt hr
  split at h
  · cases h
    exact ⟨by dsimp only; omega, fun c none => by cases none⟩
  · simp only [Option.bind_eq_some_iff, Option.map_eq_some_iff] at h
    obtain ⟨_, ⟨c, ⟨_, -, read⟩, rfl⟩, h⟩ := h
    cases h
    refine ⟨by dsimp only; omega, fun c some => ?_⟩
    cases some
    exact clock?_fraction read

theorem zone_whole {z : Option Zone} {o : Option Int} (h : z.mapM offset = .ok o) :
    ∀ s ∈ o, s % 60 = 0 ∧ s.natAbs < 86400 := by
  cases z with
  | none =>
    cases h
    exact fun s none => by cases none
  | some z =>
    obtain ⟨s, hs, h⟩ := bind_eq_ok (f := fun s => .ok (some s)) h
    cases h
    exact fun s' same => by cases same; exact offset_whole hs

/-- The times that a document denotes are valid ones. -/
theorem value_timely {cs : List Char} {t : WrittenTime} (h : read? cs = some t) {v : Value}
    (read : t.value = .ok v) : v.Timely := by
  obtain ⟨year, fraction⟩ := read?_spec h
  unfold value at read
  split at read
  · cases hd : t.date with
    | error fault => rw [hd] at read; cases read
    | ok d =>
      rw [hd] at read
      cases read
      exact date_isValid hd year
  · rename_i c hc
    obtain ⟨o, zone, read⟩ := bind_eq_ok read
    obtain ⟨d, date, read⟩ := bind_eq_ok read
    dsimp only at read
    split at read
    · cases read
    · rename_i hour
      split at read
      · cases read
      · rename_i minute
        split at read
        · cases read
        · rename_i second
          cases read
          exact ⟨date_isValid date year, Nat.le_of_not_lt hour, Nat.le_of_not_lt minute,
            Nat.le_of_not_lt second, micros_lt (fraction c hc), zone_whole zone⟩

end Yaml.WrittenTime

end ProfileReadme
