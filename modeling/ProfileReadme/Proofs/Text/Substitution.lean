/-
Substitutions: marks such as `{name}` in a text are found in one walk from left to right and
become the values that a table has for them; what is put in is not looked at again. Replacing one
mark after the other comes to the same walk as long as no value completes a mark that is replaced
after it, and a value that does complete one can be told by what stands around it in some text.
-/
import ProfileReadme.Proofs.Text.Join
import Mathlib.Data.List.Infix

namespace ProfileReadme.Text

/-! ## One walk over a text -/

/-- The first entry of a table of marks and values whose mark starts the text. -/
def entryAt (table : List (List Char × List Char)) (cs : List Char) :
    Option (List Char × List Char) :=
  table.find? (·.1.isPrefixOf cs)

/-- `substitute` on a text without its first `skip` characters. -/
def substituteFrom (table : List (List Char × List Char)) : Nat → List Char → List Char
  | _, [] => []
  | skip + 1, _ :: cs => substituteFrom table skip cs
  | 0, c :: cs =>
    match entryAt table (c :: cs) with
    | some (mark, value) => value ++ substituteFrom table (mark.length - 1) cs
    | none => c :: substituteFrom table 0 cs

/-- Each mark of the table in a text, found from left to right, becomes its value, and every other
character stays. -/
def substitute (table : List (List Char × List Char)) (cs : List Char) : List Char :=
  substituteFrom table 0 cs

/-- A mark is a name in braces. -/
def IsMark (mark : List Char) : Prop :=
  ∃ name : List Char, mark = '{' :: (name ++ ['}']) ∧ '{' ∉ name ∧ '}' ∉ name

/-- A value completes a mark when, between a beginning and an end of the mark, neither of them the
whole of it, it makes a text in which the mark occurs. -/
def Completes (mark value : List Char) : Prop :=
  ∃ before ∈ mark.inits, ∃ after ∈ mark.tails,
    before ≠ mark ∧ after ≠ mark ∧ mark <:+: before ++ value ++ after

instance (mark value : List Char) : Decidable (Completes mark value) :=
  inferInstanceAs (Decidable (∃ before ∈ mark.inits, ∃ after ∈ mark.tails,
    before ≠ mark ∧ after ≠ mark ∧ mark <:+: before ++ value ++ after))

variable {table : List (List Char × List Char)} {mark value : List Char}

theorem IsMark.ne_nil (h : IsMark mark) : mark ≠ [] := by
  obtain ⟨name, rfl, -, -⟩ := h
  exact List.cons_ne_nil _ _

theorem IsMark.single (h : IsMark mark) (value : List Char) :
    ∀ e ∈ [(mark, value)], IsMark e.1 := by
  intro e he
  rwa [List.mem_singleton.1 he]

/-- Where one mark starts no other one does. -/
theorem IsMark.eq_of_isPrefix {other rest : List Char} (h : IsMark mark) (h' : IsMark other)
    (starts : other <+: mark ++ rest) : other = mark := by
  obtain ⟨name, rfl, -, closed⟩ := h
  obtain ⟨name', rfl, -, closed'⟩ := h'
  obtain ⟨left, eq⟩ := starts
  -- both names end at the first closing brace
  have ends : name' ++ '}' :: left = name ++ '}' :: rest := by simpa using eq
  have run {name : List Char} (h : '}' ∉ name) (rest : List Char) :
      (name ++ '}' :: rest).takeWhile (· ≠ '}') = name := by
    refine (takeWhile_append_stop (fun c hc => ?_) (by simp)).1
    exact decide_eq_true fun eq => h (eq ▸ hc)
  rw [← run closed' left, ends, run closed rest]

theorem entryAt_eq_some {cs : List Char} {e : List Char × List Char}
    (h : entryAt table cs = some e) : e ∈ table ∧ e.1 <+: cs := by
  have starts : e.1.isPrefixOf cs = true :=
    List.find?_some (p := fun e : List Char × List Char => e.1.isPrefixOf cs) h
  exact ⟨List.mem_of_find?_eq_some h, List.isPrefixOf_iff_prefix.1 starts⟩

theorem entryAt_eq_none_iff {cs : List Char} :
    entryAt table cs = none ↔ ∀ e ∈ table, ¬ e.1 <+: cs := by
  simp [entryAt]

theorem substitute_nil : substitute table [] = [] := rfl

theorem substitute_char {c : Char} {cs : List Char} (h : entryAt table (c :: cs) = none) :
    substitute table (c :: cs) = c :: substitute table cs := by
  simp only [substitute, substituteFrom, h]

theorem substituteFrom_length (skipped cs : List Char) :
    substituteFrom table skipped.length (skipped ++ cs) = substitute table cs := by
  induction skipped with
  | nil => rfl
  | cons c skipped ih => exact ih

theorem substitute_mark {rest : List Char} (h : entryAt table (mark ++ rest) = some (mark, value))
    (ne : mark ≠ []) : substitute table (mark ++ rest) = value ++ substitute table rest := by
  obtain ⟨c, cs, rfl⟩ := List.exists_cons_of_ne_nil ne
  rw [← substituteFrom_length cs rest]
  simp only [List.cons_append] at h
  simp only [substitute, substituteFrom, List.cons_append, h, List.length_cons,
    Nat.add_sub_cancel]

/-- The walk as an induction: over the marks found and the characters between them. -/
@[elab_as_elim]
theorem walk_induction {motive : List Char → Prop} (marks : ∀ e ∈ table, IsMark e.1)
    (nil : motive [])
    (found : ∀ mark value rest, entryAt table (mark ++ rest) = some (mark, value) →
      (mark, value) ∈ table → motive rest → motive (mark ++ rest))
    (char : ∀ c rest, entryAt table (c :: rest) = none → motive rest → motive (c :: rest)) :
    ∀ cs, motive cs
  | [] => nil
  | c :: cs => by
    cases at' : entryAt table (c :: cs) with
    | none => exact char c cs at' (walk_induction marks nil found char cs)
    | some e =>
      obtain ⟨mem, rest, eq⟩ := entryAt_eq_some at'
      have shorter : rest.length < (c :: cs).length := by
        have := List.length_pos_iff.2 (marks e mem).ne_nil
        rw [← eq, List.length_append]
        omega
      have := walk_induction marks nil found char rest
      rw [← eq] at at' ⊢
      exact found e.1 e.2 rest at' mem this
termination_by cs => cs.length
decreasing_by
  · exact Nat.lt_succ_self _
  · exact shorter

/-- Characters at which no mark starts stay. -/
theorem substitute_append {front rest : List Char}
    (none : ∀ cs, cs <:+ front → cs ≠ [] → entryAt table (cs ++ rest) = none) :
    substitute table (front ++ rest) = front ++ substitute table rest := by
  induction front with
  | nil => rfl
  | cons c front ih =>
    have here : entryAt table (c :: (front ++ rest)) = .none :=
      none (c :: front) List.suffix_rfl (List.cons_ne_nil _ _)
    have later := ih fun cs suffix => none cs (suffix.trans (List.suffix_cons c front))
    rw [List.cons_append, List.cons_append, substitute_char here, later]

theorem entryAt_char (marks : ∀ e ∈ table, IsMark e.1) {c : Char} (h : c ≠ '{') (cs : List Char) :
    entryAt table (c :: cs) = none := by
  refine entryAt_eq_none_iff.2 fun e he starts => ?_
  obtain ⟨name, eq, -, -⟩ := marks e he
  rw [eq] at starts
  exact h (List.cons_prefix_cons.1 starts).1.symm

theorem substitute_plain (marks : ∀ e ∈ table, IsMark e.1) {front : List Char}
    (plain : '{' ∉ front) (rest : List Char) :
    substitute table (front ++ rest) = front ++ substitute table rest := by
  refine substitute_append fun cs suffix ne => ?_
  obtain ⟨c, cs, rfl⟩ := List.exists_cons_of_ne_nil ne
  refine entryAt_char marks (fun eq => plain ?_) _
  exact suffix.subset (eq ▸ List.mem_cons_self ..)

/-- A mark that the table does not have stays. -/
theorem substitute_other (marks : ∀ e ∈ table, IsMark e.1) (h : IsMark mark)
    (other : ∀ e ∈ table, e.1 ≠ mark) (rest : List Char) :
    substitute table (mark ++ rest) = mark ++ substitute table rest := by
  have none : entryAt table (mark ++ rest) = none :=
    entryAt_eq_none_iff.2 fun e he starts => other e he (h.eq_of_isPrefix (marks e he) starts)
  obtain ⟨name, rfl, opened, -⟩ := h
  rw [List.cons_append] at none ⊢
  rw [substitute_char none, substitute_plain marks (by simpa using opened)]
  rfl

/-! ## Replacing one mark -/

theorem replaceFrom_eq (old new : List Char) : ∀ (skip : Nat) (cs : List Char),
    replaceFrom old new skip cs = substituteFrom [(old, new)] skip cs
  | _, [] => by cases ‹Nat› <;> rfl
  | skip + 1, _ :: cs => replaceFrom_eq old new skip cs
  | 0, c :: cs => by
    unfold replaceFrom substituteFrom entryAt
    rw [List.find?_singleton]
    split
    · rw [replaceFrom_eq old new _ cs]
    · rw [replaceFrom_eq old new _ cs]

theorem replace_toList (s new : String) {old : String} (h : old ≠ "") :
    (replace s old new).toList = substitute [(old.toList, new.toList)] s.toList := by
  unfold replace
  rw [if_neg (by simpa using h), String.toList_ofList, replaceFrom_eq]
  rfl

/-- A mark that is one character long is replaced wherever it stands. -/
theorem replaceFrom_char (q : Char) (new cs : List Char) :
    replaceFrom [q] new 0 cs = cs.flatMap fun c => if c = q then new else [c] := by
  induction cs with
  | nil => rfl
  | cons c cs ih =>
    unfold replaceFrom
    rw [List.flatMap_cons, ← ih]
    by_cases same : c = q
    · subst same
      simp
    · have apart : [q].isPrefixOf (c :: cs) = false := by
        simp [List.isPrefixOf, Ne.symm same]
      rw [apart, if_neg Bool.false_ne_true, if_neg same]
      rfl

theorem replace_char (s new : String) {q : Char} {old : String} (one : old.toList = [q]) :
    (replace s old new).toList = s.toList.flatMap fun c => if c = q then new.toList else [c] := by
  have filled : ¬ old.isEmpty = true := by
    intro empty
    rw [String.isEmpty_iff.1 empty] at one
    cases one
  unfold replace
  rw [if_neg filled, String.toList_ofList, one, replaceFrom_char]

theorem entryAt_single {rest : List Char} :
    entryAt [(mark, value)] (mark ++ rest) = some (mark, value) := by
  simp [entryAt]

/-- Each mark found makes the text longer or shorter by the same number of characters. -/
theorem substitute_length (h : IsMark mark) (value cs : List Char) :
    ∃ found, (mark <:+: cs → 0 < found) ∧
      (substitute [(mark, value)] cs).length + found * mark.length =
        cs.length + found * value.length := by
  induction cs using walk_induction (h.single value) with
  | nil =>
    refine ⟨0, fun infix' => absurd (List.infix_nil.1 infix') h.ne_nil, ?_⟩
    rw [Nat.zero_mul, Nat.zero_mul]
    rfl
  | found m v rest at' mem ih =>
    obtain ⟨rfl, rfl⟩ : m = mark ∧ v = value := by simpa using mem
    obtain ⟨found, -, lengths⟩ := ih
    refine ⟨found + 1, fun _ => Nat.succ_pos _, ?_⟩
    rw [substitute_mark at' h.ne_nil]
    simp only [List.length_append, Nat.add_mul]
    omega
  | char c rest none ih =>
    obtain ⟨found, pos, lengths⟩ := ih
    refine ⟨found, fun infix' => pos ?_, ?_⟩
    · rcases List.infix_cons_iff.1 infix' with starts | later
      · exact absurd starts (entryAt_eq_none_iff.1 none _ (List.mem_singleton_self _))
      · exact later
    · rw [substitute_char none, List.length_cons, List.length_cons]
      omega

theorem substitute_of_absent {cs : List Char} (none : ¬ mark <:+: cs) :
    substitute [(mark, value)] cs = cs := by
  have clear : ∀ cs', cs' <:+ cs → cs' ≠ [] → entryAt [(mark, value)] (cs' ++ []) = .none := by
    intro cs' suffix _
    refine entryAt_eq_none_iff.2 fun e he starts => none ?_
    rw [List.mem_singleton.1 he, List.append_nil] at starts
    exact starts.isInfix.trans suffix.isInfix
  simpa [substitute_nil] using substitute_append clear

/-- A text stays as it is only if a mark that occurs in it is its own value. -/
theorem substitute_ne (h : IsMark mark) (ne : value ≠ mark) {cs : List Char}
    (occurs : mark <:+: cs) : substitute [(mark, value)] cs ≠ cs := by
  intro same
  -- the value is as long as the mark, so the places in the text do not shift
  have long : value.length = mark.length := by
    obtain ⟨found, pos, lengths⟩ := substitute_length h value cs
    rw [same] at lengths
    exact (Nat.eq_of_mul_eq_mul_left (pos occurs) (Nat.add_left_cancel lengths)).symm
  induction cs using walk_induction (h.single value) with
  | nil => exact h.ne_nil (List.infix_nil.1 occurs)
  | found m v rest at' mem ih =>
    obtain ⟨rfl, rfl⟩ : m = mark ∧ v = value := by simpa using mem
    rw [substitute_mark at' h.ne_nil] at same
    exact ne (List.append_inj_left same long)
  | char c rest none ih =>
    rw [substitute_char none] at same
    rcases List.infix_cons_iff.1 occurs with starts | later
    · exact entryAt_eq_none_iff.1 none _ (List.mem_singleton_self _) starts
    · exact ih later (List.cons_injective same)

theorem substitute_empty (cs : List Char) : substitute [] cs = cs := by
  induction cs with
  | nil => rfl
  | cons c cs ih => rw [substitute_char rfl, ih]

/-- An entry that has a mark for its own value might as well be left out. -/
theorem substitute_idle {front back : List (List Char × List Char)} (h : IsMark mark)
    (marks : ∀ e ∈ front ++ back, IsMark e.1) (other : ∀ e ∈ front ++ back, e.1 ≠ mark)
    (cs : List Char) :
    substitute (front ++ (mark, mark) :: back) cs = substitute (front ++ back) cs := by
  have all : ∀ e ∈ front ++ (mark, mark) :: back, IsMark e.1 := by
    intro e he
    rcases List.mem_append.1 he with hf | hb
    · exact marks e (List.mem_append_left _ hf)
    · rcases List.mem_cons.1 hb with rfl | hb
      · exact h
      · exact marks e (List.mem_append_right _ hb)
  induction cs using walk_induction all with
  | nil => rfl
  | found m v rest at' mem ih =>
    rw [substitute_mark at' (all _ mem).ne_nil, ih]
    by_cases starts : mark <+: m ++ rest
    · obtain rfl : mark = m := (all _ mem).eq_of_isPrefix h starts
      obtain rfl : v = mark := by
        rcases List.mem_append.1 mem with hf | hb
        · exact absurd rfl (other _ (List.mem_append_left _ hf))
        · rcases List.mem_cons.1 hb with eq | hb
          · exact congrArg Prod.snd eq
          · exact absurd rfl (other _ (List.mem_append_right _ hb))
      rw [substitute_other marks h other]
    · have at'' : entryAt (front ++ back) (m ++ rest) = some (m, v) := by
        rw [← at', entryAt, entryAt, List.find?_append, List.find?_append, List.find?_cons_of_neg]
        exact fun h => starts (List.isPrefixOf_iff_prefix.1 h)
      rw [substitute_mark at'' (all _ mem).ne_nil]
  | char c rest none ih =>
    rw [substitute_char none, substitute_char (entryAt_eq_none_iff.2 fun e he => ?_), ih]
    exact entryAt_eq_none_iff.1 none e (by simp only [List.mem_append, List.mem_cons] at *; tauto)

theorem substitute_self (h : IsMark mark) (cs : List Char) :
    substitute [(mark, mark)] cs = cs := by
  have idle : substitute ([] ++ (mark, mark) :: []) cs = substitute ([] ++ []) cs :=
    substitute_idle h (by simp) (by simp) cs
  exact idle.trans (substitute_empty cs)

/-! ## Values that do not complete a mark -/

theorem prefix_append_cases {cs front rest : List Char} (h : cs <+: front ++ rest) :
    cs <+: front ∨ ∃ back, cs = front ++ back ∧ back <+: rest := by
  rcases List.prefix_or_prefix_of_prefix h (List.prefix_append front rest) with inside | beyond
  · exact .inl inside
  · obtain ⟨back, rfl⟩ := beyond
    exact .inr ⟨back, rfl, (List.prefix_append_right_inj front).1 h⟩

/-- A mark that a value does not complete does not start in it, whatever comes after it. -/
theorem not_starts_in_value (h : ¬ Completes mark value) (hm : mark ≠ []) {cs : List Char}
    (suffix : cs <:+ value) (ne : cs ≠ []) (rest : List Char) : ¬ mark <+: cs ++ rest := by
  intro starts
  have nil : [] ∈ mark.inits := (List.mem_inits _ _).2 (List.nil_prefix)
  rcases prefix_append_cases starts with inside | ⟨back, eq, -⟩
  · have : mark <:+: value := inside.isInfix.trans suffix.isInfix
    exact h ⟨[], nil, [], (List.mem_tails _ _).2 List.nil_suffix, hm.symm, hm.symm, by simpa⟩
  · -- the mark goes on after the value
    have after : back ∈ mark.tails := (List.mem_tails _ _).2 ⟨cs, eq.symm⟩
    refine h ⟨[], nil, back, after, hm.symm, ?_, ?_⟩
    · intro whole
      rw [whole] at eq
      exact ne (List.append_left_eq_self.1 eq.symm)
    · obtain ⟨lead, rfl⟩ := suffix
      rw [eq]
      exact ⟨lead, [], by simp⟩

/-- An end of a mark that a value does not complete does not start with the value. -/
theorem not_ends_in_value (h : ¬ Completes mark value) {front back : List Char}
    (eq : mark = front ++ back) (hf : front ≠ []) (hb : back ≠ []) (rest : List Char) :
    ¬ back <+: value ++ rest := by
  intro starts
  have before : front ∈ mark.inits := (List.mem_inits _ _).2 ⟨back, eq.symm⟩
  have proper : front ≠ mark := fun whole => hb (List.append_right_eq_self.1 (whole ▸ eq).symm)
  rcases prefix_append_cases starts with inside | ⟨tail, rfl, -⟩
  · obtain ⟨more, rfl⟩ := inside
    refine h ⟨front, before, [], (List.mem_tails _ _).2 List.nil_suffix, proper, ?_, ?_⟩
    · rw [eq]
      exact (List.append_ne_nil_of_left_ne_nil hf _).symm
    · exact ⟨[], more, by simp [eq]⟩
  · refine h ⟨front, before, tail, (List.mem_tails _ _).2 ⟨front ++ value, ?_⟩, proper, ?_, ?_⟩
    · rw [eq, List.append_assoc]
    · intro whole
      have lengths := congrArg List.length eq
      have := List.length_pos_iff.2 hf
      simp only [List.length_append, whole] at lengths
      omega
    · rw [eq, List.append_assoc]

/-- What occurs in a text without starting in the front of it occurs in the rest. -/
theorem infix_of_append {part front rest : List Char}
    (none : ∀ cs, cs <:+ front → cs ≠ [] → ¬ part <+: cs ++ rest)
    (occurs : part <:+: front ++ rest) : part <:+: rest := by
  induction front with
  | nil => exact occurs
  | cons c front ih =>
    rcases List.infix_cons_iff.1 occurs with starts | later
    · exact absurd starts (none (c :: front) List.suffix_rfl (List.cons_ne_nil _ _))
    · exact ih (fun cs suffix => none cs (suffix.trans (List.suffix_cons c front))) later

/-- A character that a text does not have cuts what it occurs in. -/
theorem infix_or_infix {part front rest : List Char} {c : Char} (foreign : c ∉ part)
    (occurs : part <:+: front ++ c :: rest) : part <:+: front ∨ part <:+: rest := by
  induction front with
  | nil =>
    rcases List.infix_cons_iff.1 occurs with starts | later
    · rcases List.prefix_cons_iff.1 starts with rfl | ⟨back, rfl, -⟩
      · exact .inl List.infix_rfl
      · exact absurd (List.mem_cons_self ..) foreign
    · exact .inr later
  | cons d front ih =>
    rcases List.infix_cons_iff.1 occurs with starts | later
    · have starts : part <+: d :: front ++ c :: rest := starts
      rcases prefix_append_cases starts with inside | ⟨back, rfl, goesOn⟩
      · exact .inl inside.isInfix
      · rcases List.prefix_cons_iff.1 goesOn with rfl | ⟨back, rfl, -⟩
        · exact .inl (by rw [List.append_nil])
        · exact absurd (by simp) foreign
    · exact (ih later).imp (·.trans (List.suffix_cons d front).isInfix) id

/-- A value made of characters that a mark does not have does not complete it. -/
theorem not_completes_of_foreign (hm : mark ≠ []) (filled : value ≠ [])
    (foreign : ∀ c ∈ value, c ∉ mark) : ¬ Completes mark value := by
  rintro ⟨before, hb, after, ha, nb, na, occurs⟩
  obtain ⟨c, cs, rfl⟩ := List.exists_cons_of_ne_nil filled
  rw [List.append_assoc, List.cons_append] at occurs
  rcases infix_or_infix (foreign c (List.mem_cons_self ..)) occurs with inside | later
  · exact nb (((List.mem_inits _ _).1 hb).sublist.antisymm inside.sublist)
  · have inside : mark <:+: after := by
      refine infix_of_append (fun cs' suffix ne starts => ?_) later
      obtain ⟨d, ds, rfl⟩ := List.exists_cons_of_ne_nil ne
      obtain ⟨m, ms, rfl⟩ := List.exists_cons_of_ne_nil hm
      obtain ⟨rfl, -⟩ := List.cons_prefix_cons.1 starts
      exact foreign m (List.mem_cons_of_mem _ (suffix.subset (List.mem_cons_self ..)))
        (List.mem_cons_self ..)
    exact na (((List.mem_tails _ _).1 ha).sublist.antisymm inside.sublist)

section Kept

variable (marks : ∀ e ∈ table, IsMark e.1) (kept : ∀ e ∈ table, ¬ Completes mark e.2)
include marks kept

/-- An end of the mark that starts a text after the walk started it before. -/
theorem prefix_of_substitute (cs : List Char) : ∀ front back, mark = front ++ back → front ≠ [] →
    back <+: substitute table cs → back <+: cs := by
  induction cs using walk_induction marks with
  | nil => exact fun _ _ _ _ starts => starts
  | found m v rest at' mem ih =>
    intro front back eq hf starts
    rw [substitute_mark at' (marks _ mem).ne_nil] at starts
    by_cases hb : back = []
    · rw [hb]
      exact List.nil_prefix
    · exact absurd starts (not_ends_in_value (kept _ mem) eq hf hb _)
  | char c rest none ih =>
    intro front back eq hf starts
    rw [substitute_char none] at starts
    cases back with
    | nil => exact List.nil_prefix
    | cons b back =>
      obtain ⟨rfl, goesOn⟩ := List.cons_prefix_cons.1 starts
      have later := ih (front ++ [b]) back (by simpa using eq) (by simp) goesOn
      exact List.cons_prefix_cons.2 ⟨rfl, later⟩

theorem starts_of_substitute (hm : mark ≠ []) {c : Char} {cs : List Char}
    (starts : mark <+: c :: substitute table cs) : mark <+: c :: cs := by
  rcases List.prefix_cons_iff.1 starts with eq | ⟨back, eq, starts⟩
  · exact absurd eq hm
  · rw [eq]
    exact List.cons_prefix_cons.2
      ⟨rfl, prefix_of_substitute marks kept cs [c] back eq (List.cons_ne_nil _ _) starts⟩

/-- A mark in a text after the walk was in the text before it, and the table does not have it. -/
theorem infix_of_substitute (hm : mark ≠ []) (cs : List Char)
    (occurs : mark <:+: substitute table cs) : mark <:+: cs ∧ ∀ e ∈ table, e.1 ≠ mark := by
  induction cs using walk_induction marks with
  | nil => exact absurd (List.infix_nil.1 occurs) hm
  | found m v rest at' mem ih =>
    rw [substitute_mark at' (marks _ mem).ne_nil] at occurs
    have later := infix_of_append (fun cs suffix ne =>
      not_starts_in_value (kept _ mem) hm suffix ne _) occurs
    exact ⟨(ih later).1.trans (List.suffix_append m rest).isInfix, (ih later).2⟩
  | char c rest none ih =>
    rw [substitute_char none] at occurs
    rcases List.infix_cons_iff.1 occurs with starts | later
    · have starts := starts_of_substitute marks kept hm starts
      exact ⟨starts.isInfix, fun e he eq => entryAt_eq_none_iff.1 none e he (eq ▸ starts)⟩
    · exact ⟨(ih later).1.trans (List.suffix_cons c rest).isInfix, (ih later).2⟩

/-- Replacing one more mark after a walk is a walk with one more entry. -/
theorem substitute_substitute (h : IsMark mark) (other : ∀ e ∈ table, e.1 ≠ mark)
    (value cs : List Char) :
    substitute [(mark, value)] (substitute table cs) =
      substitute (table ++ [(mark, value)]) cs := by
  have all : ∀ e ∈ table ++ [(mark, value)], IsMark e.1 := fun e he =>
    (List.mem_append.1 he).elim (marks e) (h.single value e)
  have first (cs : List Char) : entryAt (table ++ [(mark, value)]) cs =
      (entryAt table cs).or (entryAt [(mark, value)] cs) := List.find?_append
  induction cs using walk_induction all with
  | nil => rfl
  | found m v rest at' mem ih =>
    have ne := (all _ mem).ne_nil
    rw [substitute_mark at' ne, ← ih]
    cases before : entryAt table (m ++ rest) with
    | none =>
      -- the new mark, which the first walk leaves where it is
      rw [first, before, Option.none_or] at at'
      obtain ⟨rfl, rfl⟩ : m = mark ∧ v = value := by simpa using (entryAt_eq_some at').1
      rw [substitute_other marks h other, substitute_mark entryAt_single ne]
    | some e =>
      -- a mark of the table, whose value is not looked into again
      rw [first, before, Option.some_or] at at'
      obtain rfl : e = (m, v) := Option.some.inj at'
      have mem := (entryAt_eq_some before).1
      rw [substitute_mark before ne]
      refine substitute_append fun cs suffix hcs => entryAt_eq_none_iff.2 fun e he => ?_
      rw [List.mem_singleton.1 he]
      exact not_starts_in_value (kept _ mem) h.ne_nil suffix hcs _
  | char c rest none ih =>
    rw [first, Option.or_eq_none_iff] at none
    rw [substitute_char none.1, substitute_char (entryAt_eq_none_iff.2 fun e he starts => ?_), ih,
      substitute_char (by rw [first, none.1, none.2]; rfl)]
    rw [List.mem_singleton.1 he] at starts
    exact entryAt_eq_none_iff.1 none.2 _ (List.mem_singleton_self _)
      (starts_of_substitute marks kept h.ne_nil starts)

end Kept

/-! ## What stands around a mark -/

theorem IsMark.front_of_ne {front : List Char} (h : IsMark mark) (hf : front ∈ mark.inits)
    (ne : front ≠ mark) : front = [] ∨ ∃ cs, front = '{' :: cs ∧ '{' ∉ cs ∧ '}' ∉ cs := by
  obtain ⟨name, rfl, opened, closed⟩ := h
  rcases List.prefix_cons_iff.1 ((List.mem_inits _ _).1 hf) with rfl | ⟨cs, rfl, starts⟩
  · exact .inl rfl
  · -- short of the whole mark, the closing brace is left out
    have inside : cs <+: name := by
      rcases List.prefix_concat_iff.1 starts with whole | inside
      · exact absurd (whole ▸ rfl) ne
      · exact inside
    exact .inr ⟨cs, rfl, fun h => opened (inside.subset h), fun h => closed (inside.subset h)⟩

theorem IsMark.back_of_ne {back : List Char} (h : IsMark mark) (hb : back ∈ mark.tails)
    (ne : back ≠ mark) : '{' ∉ back := by
  obtain ⟨name, rfl, opened, -⟩ := h
  rcases List.suffix_cons_iff.1 ((List.mem_tails _ _).1 hb) with whole | inside
  · exact absurd whole ne
  · intro mem
    have : '{' ∈ name ++ ['}'] := inside.subset mem
    exact opened (by simpa using this)

/-- Between a beginning and an end of another mark, neither of them the whole of it, a mark of the
table is all that the walk replaces. -/
theorem substitute_between (marks : ∀ e ∈ table, IsMark e.1) (h : IsMark mark) {around : List Char}
    (ha : IsMark around) {front back : List Char} (hf : front ∈ around.inits)
    (hb : back ∈ around.tails) (nf : front ≠ around) (nb : back ≠ around)
    (first : entryAt table (mark ++ back) = some (mark, value)) :
    substitute table (front ++ mark ++ back) = front ++ value ++ back := by
  have after : substitute table back = back := by
    simpa [substitute_nil] using substitute_plain marks (ha.back_of_ne hb nb) []
  rcases ha.front_of_ne hf nf with rfl | ⟨cs, rfl, opened, closed⟩
  · rw [List.nil_append, List.nil_append, substitute_mark first h.ne_nil, after]
  · have none : entryAt table ('{' :: (cs ++ (mark ++ back))) = none := by
      refine entryAt_eq_none_iff.2 fun e he starts => ?_
      obtain ⟨name, eq, opened', -⟩ := marks e he
      obtain ⟨name', eq', -, -⟩ := h
      rw [eq, eq', List.cons_prefix_cons] at starts
      -- an opening brace stands where the name would have to end
      rcases prefix_append_cases starts.2 with inside | ⟨tail, eq, starts⟩
      · exact closed (inside.subset (by simp))
      · rcases List.prefix_cons_iff.1 starts with rfl | ⟨tail, rfl, -⟩
        · exact closed (by rw [List.append_nil] at eq; rw [← eq]; simp)
        · have : '{' ∈ name ++ ['}'] := by rw [eq]; simp
          exact opened' (by simpa using this)
    rw [List.append_assoc, List.cons_append, substitute_char none, substitute_plain marks opened,
      substitute_mark first h.ne_nil, after]
    simp

end ProfileReadme.Text
