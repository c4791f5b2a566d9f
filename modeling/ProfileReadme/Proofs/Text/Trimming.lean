/-
Trimmed texts: a text without its blank end is the blanks it starts with and what trimming both
ends leaves, and it makes no difference to put a blank at the end of a text before it is trimmed.
-/
import ProfileReadme.Text.Blank
import Mathlib.Data.List.DropRight

namespace ProfileReadme.Text

section Lists

variable {p : Char → Bool}

theorem dropEndWhile_concat {c : Char} (h : p c = true) (cs : List Char) :
    dropEndWhile p (cs ++ [c]) = dropEndWhile p cs :=
  List.rdropWhile_concat_pos p cs c h

/-- What stands before a character that stays is not dropped with the end. -/
theorem dropEndWhile_append {lead cs : List Char} (h : dropEndWhile p cs ≠ []) :
    dropEndWhile p (lead ++ cs) = lead ++ dropEndWhile p cs := by
  have some : ((cs.reverse.dropWhile p).isEmpty : Bool) ≠ true := fun none =>
    h (List.reverse_eq_nil_iff.2 (List.isEmpty_iff.1 none))
  unfold dropEndWhile
  rw [List.reverse_append, List.dropWhile_append, if_neg some, List.reverse_append,
    List.reverse_reverse]

theorem dropEndWhile_eq_nil_iff {cs : List Char} :
    dropEndWhile p cs = [] ↔ ∀ c ∈ cs, p c = true :=
  List.rdropWhile_eq_nil_iff

theorem trimWhile_eq_nil_iff {cs : List Char} : trimWhile p cs = [] ↔ ∀ c ∈ cs, p c = true := by
  unfold trimWhile
  rw [dropEndWhile_eq_nil_iff]
  constructor
  · intro rest c hc
    rw [← List.takeWhile_append_dropWhile (p := p) (l := cs)] at hc
    rcases List.mem_append.1 hc with lead | rest'
    · exact List.mem_takeWhile_imp lead
    · exact rest c rest'
  · intro all c hc
    exact all c ((List.dropWhile_sublist p).mem hc)

/-- Without its end a list that does not go altogether is what it starts with and what is left of
it without both ends. -/
theorem dropEndWhile_eq {cs : List Char} (h : trimWhile p cs ≠ []) :
    dropEndWhile p cs = cs.takeWhile p ++ trimWhile p cs := by
  conv_lhs => rw [← List.takeWhile_append_dropWhile (p := p) (l := cs)]
  exact dropEndWhile_append h

/-- What is left without both ends starts with a character that stays. -/
theorem trimWhile_head {cs : List Char} : ∀ c ∈ (trimWhile p cs).head?, p c = false := by
  intro c hc
  -- it is a prefix of what is left without the start
  have start : (trimWhile p cs) <+: cs.dropWhile p := List.rdropWhile_prefix p _
  obtain ⟨rest, eq⟩ := start
  cases left : trimWhile p cs with
  | nil => rw [left] at hc; cases hc
  | cons d ds =>
    rw [left] at hc eq
    obtain rfl : d = c := Option.some.inj hc
    have := List.head?_dropWhile_not p cs
    rw [← eq] at this
    exact this

/-- What is left without both ends stops with a character that stays. -/
theorem trimWhile_concat_eq {front cs : List Char} {c : Char} (h : trimWhile p cs = front ++ [c]) :
    p c = false := by
  have filled : List.rdropWhile p (cs.dropWhile p) ≠ [] := by
    show trimWhile p cs ≠ []
    rw [h]
    exact List.concat_ne_nil c front
  have last := List.rdropWhile_last_not p _ filled
  have same : (trimWhile p cs).getLast? = some c := by rw [h, List.getLast?_concat]
  have := List.getLast?_eq_some_getLast filled
  rw [Option.some.inj (this.symm.trans same)] at last
  exact Bool.eq_false_iff.2 last

theorem trimWhile_concat {c : Char} (h : p c = true) (cs : List Char) :
    trimWhile p (cs ++ [c]) = trimWhile p cs := by
  unfold trimWhile
  rw [List.dropWhile_append]
  split
  · rename_i none
    rw [List.isEmpty_iff.1 none, List.dropWhile_cons_of_pos h]
    rfl
  · exact dropEndWhile_concat h _

end Lists

/-! ## Texts -/

theorem allBlank_iff {s : String} : allBlank s = true ↔ ∀ c ∈ s.toList, isBlank c = true :=
  List.all_eq_true

theorem strip_eq_empty_iff (s : String) : strip s = "" ↔ allBlank s = true := by
  rw [allBlank_iff, ← trimWhile_eq_nil_iff]
  exact String.ofList_eq_empty_iff

theorem strip_line (s : String) : strip (s ++ "\n") = strip s := by
  unfold strip
  rw [String.toList_append]
  exact congrArg String.ofList (trimWhile_concat (by decide) s.toList)

/-- The blanks that a text starts with. -/
def leading (s : String) : List Char := s.toList.takeWhile isBlank

theorem stripEnd_eq {s : String} (h : allBlank s = false) :
    (stripEnd s).toList = leading s ++ (strip s).toList := by
  have left : trimWhile isBlank s.toList ≠ [] := fun none => by
    rw [allBlank_iff.2 (trimWhile_eq_nil_iff.1 none)] at h
    cases h
  unfold stripEnd strip leading
  rw [String.toList_ofList, String.toList_ofList, dropEndWhile_eq left]

/-- A trimmed text that is ended with a line break does not start with one. -/
theorem strip_line_head {s : String} (h : allBlank s = false) :
    ∀ c ∈ (strip s ++ "\n").toList.head?, c ≠ '\n' := by
  have left : (strip s).toList ≠ [] := fun none => by
    rw [(strip_eq_empty_iff s).1 (String.toList_eq_nil_iff.1 none)] at h
    cases h
  have start : ∀ c ∈ (strip s).toList.head?, isBlank c = false := by
    unfold strip
    rw [String.toList_ofList]
    exact trimWhile_head
  intro c hc
  rw [String.toList_append, List.head?_append_of_ne_nil _ left] at hc
  rintro rfl
  exact absurd (start _ hc) (by decide)

end ProfileReadme.Text
