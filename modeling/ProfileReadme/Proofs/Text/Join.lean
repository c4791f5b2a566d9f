/-
Joined texts and texts taken apart: what the characters of joined parts are, when a joined text is
empty, and where a run of characters stops.
-/
import ProfileReadme.Text.Basic
import Mathlib.Data.List.TakeWhile

namespace ProfileReadme.Text

/-! ## Joined texts -/

theorem join_cons_toList (sep part next : String) (parts : List String) :
    (join sep (part :: next :: parts)).toList =
      part.toList ++ (sep.toList ++ (join sep (next :: parts)).toList) := by
  show (part ++ sep ++ join sep (next :: parts)).toList = _
  rw [String.toList_append, String.toList_append, List.append_assoc]

theorem join_toList : ∀ parts : List String,
    (join "" parts).toList = parts.flatMap String.toList
  | [] => rfl
  | [part] => (List.append_nil _).symm
  | part :: next :: parts => by
    rw [join_cons_toList, join_toList (next :: parts)]
    rfl

theorem join_ne_empty (sep : String) {part : String} (h : part ≠ "") :
    ∀ parts : List String, join sep (part :: parts) ≠ ""
  | [] => h
  | next :: parts => by
    unfold join
    rw [ne_eq, String.append_eq_empty_iff, String.append_eq_empty_iff]
    exact fun empty => h empty.1.1

/-- Parts none of which is empty are joined to the empty text only if there are none. -/
theorem join_eq_empty_iff (sep : String) {parts : List String} (h : ∀ s ∈ parts, s ≠ "") :
    join sep parts = "" ↔ parts = [] := by
  cases parts with
  | nil => exact ⟨fun _ => rfl, fun _ => rfl⟩
  | cons part parts =>
    have := join_ne_empty sep (h part (List.mem_cons_self ..)) parts
    exact ⟨fun empty => absurd empty this, fun none => by cases none⟩

/-- A text left empty under a condition, and filled otherwise, tells the condition. -/
theorem ite_eq_empty_iff {c : Bool} {s : String} (h : c = false → s ≠ "") :
    (if c then "" else s) = "" ↔ c = true := by
  cases c with
  | true => exact iff_of_true rfl rfl
  | false => exact iff_of_false (h rfl) Bool.false_ne_true

theorem joinFilled_eq_empty_iff (sep : String) (parts : List String) :
    joinFilled sep parts = "" ↔ ∀ s ∈ parts, s = "" := by
  unfold joinFilled
  rw [join_eq_empty_iff]
  · simp [List.filter_eq_nil_iff]
  · intro s hs
    simpa using (List.mem_filter.1 hs).2

/-! ## Parts of texts -/

/-- A run of characters stops where another one stands. -/
theorem takeWhile_append_stop {p : Char → Bool} {l rest : List Char} (h : ∀ c ∈ l, p c = true)
    (stop : ∀ c ∈ rest.head?, p c = false) :
    (l ++ rest).takeWhile p = l ∧ (l ++ rest).dropWhile p = rest := by
  rw [List.takeWhile_append_of_pos h, List.dropWhile_append_of_pos h]
  cases rest with
  | nil => exact ⟨List.append_nil l, rfl⟩
  | cons c cs =>
    have stop : ¬ p c = true := by rw [stop c rfl]; exact Bool.false_ne_true
    rw [List.takeWhile_cons_of_neg stop, List.dropWhile_cons_of_neg stop, List.append_nil]
    exact ⟨rfl, rfl⟩

/-- A text is a run of characters and what stops it. -/
theorem exists_run (p : Char → Bool) (cs : List Char) :
    ∃ front rest, cs = front ++ rest ∧ (∀ c ∈ front, p c = true) ∧
      ∀ c ∈ rest.head?, p c = false := by
  refine ⟨cs.takeWhile p, cs.dropWhile p, List.takeWhile_append_dropWhile.symm,
    fun c hc => List.mem_takeWhile_imp hc, fun c hc => ?_⟩
  have := List.head?_dropWhile_not p cs
  rw [hc] at this
  exact this

theorem splitAt_ne_nil (isMark : Char → Bool) : ∀ cs : List Char, splitAt isMark cs ≠ []
  | [] => List.cons_ne_nil _ _
  | c :: cs => by
    unfold splitAt
    split
    · exact List.cons_ne_nil _ _
    · split <;> exact List.cons_ne_nil _ _

theorem splitAt_mark {isMark : Char → Bool} {m : Char} (h : isMark m = true) (rest : List Char) :
    ∀ cs, splitAt isMark (cs ++ m :: rest) = splitAt isMark cs ++ splitAt isMark rest
  | [] => by
    show splitAt isMark (m :: rest) = [] :: splitAt isMark rest
    rw [splitAt, if_pos h]
  | c :: cs => by
    rw [List.cons_append, splitAt, splitAt, splitAt_mark h rest cs]
    split
    · rfl
    · cases found : splitAt isMark cs with
      | nil => exact absurd found (splitAt_ne_nil isMark cs)
      | cons piece pieces => rfl

theorem splitAt_plain {isMark : Char → Bool} {cs : List Char} (h : ∀ c ∈ cs, isMark c = false) :
    splitAt isMark cs = [cs] := by
  induction cs with
  | nil => rfl
  | cons c cs ih =>
    rw [List.forall_mem_cons] at h
    rw [splitAt, h.1, ih h.2]
    rfl

/-- Parts that are joined by a mark are found again if none of them holds a mark. -/
theorem splitAt_join {isMark : Char → Bool} {sep : String} {m : Char} (one : sep.toList = [m])
    (mark : isMark m = true) : ∀ {parts : List String}, parts ≠ [] →
      (∀ part ∈ parts, ∀ c ∈ part.toList, isMark c = false) →
      splitAt isMark (join sep parts).toList = parts.map String.toList
  | [part], _, free => splitAt_plain (free part (List.mem_singleton_self _))
  | part :: next :: parts, _, free => by
    obtain ⟨first, later⟩ := List.forall_mem_cons.1 free
    rw [join_cons_toList, one, List.singleton_append, splitAt_mark mark, splitAt_plain first,
      splitAt_join one mark (List.cons_ne_nil _ _) later]
    rfl

theorem mem_splitAt {isMark : Char → Bool} {piece : List Char} : ∀ {cs : List Char},
    piece ∈ splitAt isMark cs → ∀ c ∈ piece, c ∈ cs ∧ isMark c = false
  | [], h, c, hc => by
    rw [List.mem_singleton.1 h] at hc
    cases hc
  | d :: cs, h, c, hc => by
    have later {piece : List Char} (h : piece ∈ splitAt isMark cs) (hc : c ∈ piece) :
        c ∈ d :: cs ∧ isMark c = false :=
      (mem_splitAt h c hc).imp (List.mem_cons_of_mem d) id
    unfold splitAt at h
    split at h
    · rcases List.mem_cons.1 h with rfl | h
      · cases hc
      · exact later h hc
    next apart =>
      split at h
      next found => exact absurd found (splitAt_ne_nil isMark cs)
      next first pieces found =>
        rcases List.mem_cons.1 h with rfl | h
        · rcases List.mem_cons.1 hc with rfl | hc
          · exact ⟨List.mem_cons_self .., by simpa using apart⟩
          · exact later (found ▸ List.mem_cons_self ..) hc
        · exact later (found ▸ List.mem_cons_of_mem _ h) hc

theorem lines_ne_nil (s : String) : lines s ≠ [] :=
  fun none => splitAt_ne_nil _ _ (List.map_eq_nil_iff.1 none)

/-- A list is cut in one way at the last of its separators. -/
theorem cut_last {sep : α} {as bs as' bs' : List α} (free : sep ∉ bs) (free' : sep ∉ bs')
    (h : as ++ sep :: bs = as' ++ sep :: bs') : as = as' ∧ bs = bs' := by
  rcases List.append_eq_append_iff.1 h with ⟨more, rfl, rest⟩ | ⟨more, rfl, rest⟩
  -- if one front were longer, the other cut would leave a separator behind the last one
  · cases more with
    | nil =>
      obtain rfl := (List.cons.inj rest).2
      exact ⟨(List.append_nil as).symm, rfl⟩
    | cons c more =>
      obtain rfl := (List.cons.inj rest).2
      exact absurd (List.mem_append_right more (List.mem_cons_self ..)) free
  · cases more with
    | nil =>
      obtain rfl := (List.cons.inj rest).2
      exact ⟨List.append_nil as', rfl⟩
    | cons c more =>
      obtain rfl := (List.cons.inj rest).2
      exact absurd (List.mem_append_right more (List.mem_cons_self ..)) free'

theorem ne_empty_of_filled? {s : Option String} {t : String} (h : filled? s = some t) :
    s = some t ∧ t ≠ "" := by
  cases s with
  | none => cases h
  | some s =>
    obtain ⟨rfl, filled⟩ := (Option.filter_eq_some_iff.1 h).imp Option.some.inj id
    exact ⟨rfl, by simpa using filled⟩

theorem filledOr_some (s other : String) :
    filledOr (some s) other = if s = "" then other else s := by
  by_cases empty : s = ""
  · rw [empty]
    rfl
  · simp [filledOr, filled?, Option.filter, empty]

end ProfileReadme.Text
