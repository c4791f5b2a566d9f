/-
Points in time read back from their written form, if they lie on a day of the calendar and their
offset is a number of whole minutes.
-/
import ProfileReadme.Proofs.Number.Digits
import ProfileReadme.Proofs.Text.Join
import ProfileReadme.Time.Timestamp
import Mathlib.Data.List.Basic

namespace ProfileReadme

theorem Date.daysInMonth_le (year month : Nat) : daysInMonth year month ≤ 31 := by
  unfold daysInMonth
  split
  · split <;> decide
  · split <;> decide

namespace Timestamp

/-- A point in time on a day of the calendar, whose offset is less than a day and in whole
minutes. -/
structure IsValid (t : Timestamp) : Prop where
  date : t.date.IsValid
  hour : t.hour ≤ 23
  minute : t.minute ≤ 59
  second : t.second ≤ 59
  micro : t.micro < 1000000
  offset : ∀ s ∈ t.offset, s % 60 = 0 ∧ s.natAbs < 86400

/-! ## Dates -/

theorem isDigit_of_mem_pad (width n : Nat) : ∀ c ∈ pad width n, c.isDigit = true :=
  fun _ => Decimal.isDigit_of_mem_padLeft

theorem twoDigits_pad {n : Nat} (h : n < 100) (rest : List Char) :
    twoDigits (pad 2 n ++ rest) = some (n, rest) := by
  obtain ⟨a, b, two⟩ := List.length_eq_two.1 (Decimal.length_padLeft (n := n) h)
  have two : pad 2 n = [a, b] := two
  have digits := isDigit_of_mem_pad 2 n
  have value : Decimal.ofDigits (pad 2 n) = n := Decimal.ofDigits_padLeft 2 n
  rw [two] at digits value ⊢
  show (if a.isDigit && b.isDigit then _ else _) = _
  rw [digits a (by simp), digits b (by simp), value]
  rfl

theorem ofDigits_four (a b c d : Char) :
    Decimal.ofDigits [a, b] * 100 + Decimal.ofDigits [c, d] = Decimal.ofDigits [a, b, c, d] := by
  simp only [Decimal.ofDigits, List.foldl]
  omega

theorem readDate_write {d : Date} (h : d.IsValid) (rest : List Char) :
    readDate (writeDate d ++ rest) = some (d, rest) := by
  obtain ⟨year, month, day⟩ := d
  have years : year < 10000 := Nat.lt_succ_of_le h.2.1
  have months : month < 100 := Nat.lt_of_le_of_lt h.2.2.2.1 (by decide)
  have days : day < 100 :=
    Nat.lt_succ_of_le (Nat.le_trans h.2.2.2.2.2 (Nat.le_trans (Date.daysInMonth_le ..) (by decide)))
  obtain ⟨a, b, c, d, four⟩ := List.length_eq_four.1 (Decimal.length_padLeft (n := year) years)
  have four : pad 4 year = [a, b, c, d] := four
  have digits := isDigit_of_mem_pad 4 year
  have value : Decimal.ofDigits (pad 4 year) = year := Decimal.ofDigits_padLeft 4 year
  rw [four] at digits value
  have front (a b : Char) (cs : List Char) (ha : a.isDigit = true) (hb : b.isDigit = true) :
      twoDigits (a :: b :: cs) = some (Decimal.ofDigits [a, b], cs) := by
    simp [twoDigits, ha, hb]
  have text : writeDate ⟨year, month, day⟩ ++ rest =
      a :: b :: c :: d :: '-' :: (pad 2 month ++ '-' :: (pad 2 day ++ rest)) := by
    simp [writeDate, four]
  have after (cs : List Char) : Text.after? ['-'] ('-' :: cs) = some cs := rfl
  unfold readDate
  rw [text]
  simp only [front _ _ _ (digits a (by simp)) (digits b (by simp)),
    front _ _ _ (digits c (by simp)) (digits d (by simp)), Option.bind_eq_bind, Option.bind_some,
    after, twoDigits_pad months, twoDigits_pad days, ofDigits_four, value, if_pos h]

/-! ## Times of day -/

/-- What may follow the seconds: no digit, and no mark of a fraction. -/
theorem writeOffset_head (o : Option Int) :
    ∀ c ∈ (writeOffset o).head?, c = 'Z' ∨ c = '-' ∨ c = '+' := by
  intro c hc
  unfold writeOffset at hc
  split at hc
  · cases hc
  · cases hc
    exact .inl rfl
  · split at hc
    · cases hc
      exact .inr (.inl rfl)
    · cases hc
      exact .inr (.inr rfl)

theorem readFraction_write {n : Nat} (h : n < 1000000) (o : Option Int) :
    readFraction ((if n = 0 then [] else '.' :: pad 6 n) ++ writeOffset o) =
      some (n, writeOffset o) := by
  have head := writeOffset_head o
  revert head
  generalize writeOffset o = rest
  intro head
  split
  · rename_i zero
    rw [zero, List.nil_append]
    cases rest with
    | nil => rfl
    | cons c cs =>
      rcases head c rfl with rfl | rfl | rfl <;> rfl
  · have length : (pad 6 n).length = 6 := Decimal.length_padLeft h
    have stop : ∀ c ∈ rest.head?, c.isDigit = false := fun c hc => by
      rcases head c hc with rfl | rfl | rfl <;> rfl
    obtain ⟨taken, left⟩ := Text.takeWhile_append_stop (isDigit_of_mem_pad 6 n) stop
    have value : Decimal.ofDigits (pad 6 n) = n := Decimal.ofDigits_padLeft 6 n
    have filled : (pad 6 n).isEmpty = false := by
      rw [List.isEmpty_eq_false_iff_exists_mem]
      exact List.exists_mem_of_length_pos (by omega)
    have whole : (pad 6 n).take 6 = pad 6 n := List.take_of_length_le (Nat.le_of_eq length)
    have mark (cs : List Char) : readFraction ('.' :: cs) =
        if (cs.takeWhile Char.isDigit).isEmpty then none
        else some (Decimal.ofDigits ((cs.takeWhile Char.isDigit).take 6) *
          Nat.pow 10 (6 - ((cs.takeWhile Char.isDigit).take 6).length),
            cs.dropWhile Char.isDigit) := rfl
    rw [List.cons_append, mark, taken, left]
    simp only [filled, whole, length, value]
    simp

theorem readOffset_sign (negative : Bool) {hours minutes : Nat} (hh : hours < 24)
    (hm : minutes < 60) :
    readOffset ((if negative then '-' else '+') :: (pad 2 hours ++ ':' :: pad 2 minutes)) =
      some (some ((if negative then -1 else 1 : Int) * (hours * 3600 + minutes * 60 : Nat))) := by
  have colon (cs : List Char) : Text.after? [':'] (':' :: cs) = some cs := rfl
  have last := twoDigits_pad (n := minutes) (by omega) []
  rw [List.append_nil] at last
  cases negative
  all_goals
    unfold readOffset
    simp [twoDigits_pad (n := hours) (by omega), colon, last, hh, hm]

theorem readOffset_write {o : Option Int}
    (h : ∀ s ∈ o, s % 60 = 0 ∧ s.natAbs < 86400) : readOffset (writeOffset o) = some o := by
  unfold writeOffset
  split
  · rfl
  · rfl
  · rename_i s notZero
    obtain ⟨whole, short⟩ := h s rfl
    dsimp only
    have hours : s.natAbs / 60 / 60 < 24 := by omega
    have minutes : s.natAbs / 60 % 60 < 60 := by omega
    have sign := readOffset_sign (decide (s < 0)) hours minutes
    simp only [decide_eq_true_eq] at sign
    rw [sign]
    congr 2
    split <;> omega

theorem readSeconds_write {t : Timestamp} (h : t.IsValid) :
    readSeconds (':' :: (pad 2 t.second ++
      ((if t.micro = 0 then [] else '.' :: pad 6 t.micro) ++ writeOffset t.offset))) =
      some (t.second, t.micro, writeOffset t.offset) := by
  have second := h.second
  unfold readSeconds
  simp [twoDigits_pad (n := t.second) (by omega), readFraction_write h.micro, second]

/-! ## Whole times -/

theorem read_write {t : Timestamp} (h : t.IsValid) : read t.write = some t := by
  have hour := h.hour
  have minute := h.minute
  have after (cs : List Char) : Text.after? [':'] (':' :: cs) = some cs := rfl
  have clock : readClock t.date (pad 2 t.hour ++ ':' :: (pad 2 t.minute ++ ':' :: (pad 2 t.second ++
      ((if t.micro = 0 then [] else '.' :: pad 6 t.micro) ++ writeOffset t.offset)))) = some t := by
    unfold readClock
    simp [twoDigits_pad (n := t.hour) (by omega), twoDigits_pad (n := t.minute) (by omega), after,
      readSeconds_write h, readOffset_write h.offset, hour, minute]
  have full : readFull t.write.toList = some t := by
    unfold write readFull
    simp only [String.toList_ofList, List.append_assoc, List.cons_append]
    rw [readDate_write h.date]
    exact clock
  unfold read
  dsimp only
  rw [full]

end Timestamp

end ProfileReadme
