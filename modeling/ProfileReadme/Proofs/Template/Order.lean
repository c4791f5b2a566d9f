/-
The order in which a template shows its sections: ascending, ties in the places they have in the
template, every section once. Only one list is in that order, so these properties are all there is
to know of `Template.displayed`.
-/
import ProfileReadme.Template

namespace ProfileReadme

/-- `shown` holds `sections` by ascending order, and those of one order as they stand. -/
structure StableOrder (shown sections : List Section) : Prop where
  perm : shown.Perm sections
  ascending : shown.Pairwise fun a b => a.order ≤ b.order
  ties : ∀ n, shown.filter (·.order = n) = sections.filter (·.order = n)

/-! ## The displayed sections -/

namespace Template

variable (t : Template)

@[simp] theorem mem_displayed {s : Section} : s ∈ t.displayed ↔ s ∈ t.sections :=
  List.mem_mergeSort

theorem displayed_perm : t.displayed.Perm t.sections := List.mergeSort_perm _ _

theorem order_le_trans (a b c : Section) (hab : decide (a.order ≤ b.order) = true)
    (hbc : decide (b.order ≤ c.order) = true) : decide (a.order ≤ c.order) = true := by
  simp only [decide_eq_true_eq] at *; omega

theorem order_le_total (a b : Section) :
    (decide (a.order ≤ b.order) || decide (b.order ≤ a.order)) = true := by
  simp only [Bool.or_eq_true, decide_eq_true_eq]; omega

theorem displayed_ascending : t.displayed.Pairwise fun a b => a.order ≤ b.order := by
  have h := List.pairwise_mergeSort order_le_trans order_le_total t.sections
  exact h.imp fun hab => by simpa using hab

/-- The sections of one order keep their places among each other. -/
theorem displayed_ties (n : Int) :
    t.displayed.filter (·.order = n) = t.sections.filter (·.order = n) := by
  have tied : (t.sections.filter (·.order = n)).Pairwise
      fun a b => decide (a.order ≤ b.order) = true := by
    refine List.pairwise_of_forall_mem_list fun a ha b hb => ?_
    simp only [List.mem_filter, decide_eq_true_eq] at ha hb ⊢
    omega
  have sub : (t.sections.filter (·.order = n)).Sublist t.displayed :=
    List.sublist_mergeSort order_le_trans order_le_total tied List.filter_sublist
  -- the ties are a sublist of the displayed ones of their order, and there are as many of these
  have sub' := sub.filter (·.order = n)
  rw [List.filter_filter, funext fun s => Bool.and_self _] at sub'
  have len := (t.displayed_perm.filter (·.order = n)).length_eq
  exact (sub'.eq_of_length len.symm).symm

end Template

/-! ## The order is determined -/

/-- Two ascending lists with the same sections of each order are the same list. -/
theorem eq_of_ascending_of_ties : ∀ {l m : List Section},
    l.Pairwise (fun a b => a.order ≤ b.order) → m.Pairwise (fun a b => a.order ≤ b.order) →
    (∀ n, l.filter (·.order = n) = m.filter (·.order = n)) → l = m
  | [], [], _, _, _ => rfl
  | [], b :: m, _, _, h => by simpa using h b.order
  | a :: l, [], _, _, h => by simpa using h a.order
  | a :: l, b :: m, hl, hm, h => by
    have ha : a ∈ (b :: m).filter (·.order = a.order) := by rw [← h]; simp
    have hb : b ∈ (a :: l).filter (·.order = b.order) := by rw [h]; simp
    -- each head is in the other list, so neither comes after the other
    have hba : b.order ≤ a.order := by
      rcases List.mem_cons.1 (List.mem_filter.1 ha).1 with rfl | ha
      · exact Int.le_refl _
      · exact List.rel_of_pairwise_cons hm ha
    have hab : a.order ≤ b.order := by
      rcases List.mem_cons.1 (List.mem_filter.1 hb).1 with rfl | hb
      · exact Int.le_refl _
      · exact List.rel_of_pairwise_cons hl hb
    have heq : a = b := by
      have := h a.order
      rw [List.filter_cons_of_pos (by simp), List.filter_cons_of_pos (by simp; omega)] at this
      exact (List.cons.inj this).1
    subst heq
    rw [eq_of_ascending_of_ties hl.of_cons hm.of_cons fun n => ?_]
    have := h n
    by_cases hn : a.order = n
    · rwa [List.filter_cons_of_pos (by simpa), List.filter_cons_of_pos (by simpa),
        List.cons_inj_right] at this
    · rwa [List.filter_cons_of_neg (by simpa), List.filter_cons_of_neg (by simpa)] at this

theorem StableOrder.eq_displayed {t : Template} {shown : List Section}
    (h : StableOrder shown t.sections) : shown = t.displayed :=
  eq_of_ascending_of_ties h.ascending t.displayed_ascending fun n => by
    rw [h.ties, t.displayed_ties]

end ProfileReadme
