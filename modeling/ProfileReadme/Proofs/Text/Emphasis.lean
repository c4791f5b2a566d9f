/-
The tags of inline markup. A line is escaped before its marks become tags, so every bracket in it
belongs to a tag of an emphasis, and all its other characters stay. The marks are converted in four
rounds; each round keeps this of the tags that the rounds before have put in, for no tag and no
reference holds a mark.
-/
import ProfileReadme.Inline
import ProfileReadme.Proofs.Text.Tagged

namespace ProfileReadme.Inline

open Text

/-- The tags that stand for marks. -/
def emphasisTags : List String :=
  ["<strong>", "</strong>", "<em>", "</em>", "<code>", "</code>", "<del>", "</del>"]

/-- The characters of marks. No tag of an emphasis holds one. -/
def markChars : List Char := ['*', '\x60', '~']

/-- A text without its marks. -/
def unmarked (cs : List Char) : List Char := cs.filter (· ∉ markChars)

/-- Escaped text with no tags but those of emphases. Its words are the text without marks. -/
def Emphasised (words cs : List Char) : Prop :=
  ∃ tags source, Tagged tags source cs ∧ (∀ t ∈ tags, t ∈ emphasisTags) ∧ unmarked source = words

variable {words words' cs ds : List Char}

theorem emphasised_nil : Emphasised [] [] := ⟨[], [], .nil, nofun, rfl⟩

theorem Emphasised.append (h : Emphasised words cs) (h' : Emphasised words' ds) :
    Emphasised (words ++ words') (cs ++ ds) := by
  obtain ⟨tags, source, hcs, emphasis, rfl⟩ := h
  obtain ⟨tags', source', hds, emphasis', rfl⟩ := h'
  exact ⟨tags ++ tags', source ++ source', hcs.append hds,
    List.forall_mem_append.2 ⟨emphasis, emphasis'⟩, List.filter_append ..⟩

theorem emphasised_char (c : Char) : Emphasised (unmarked [c]) (contentChar c) := by
  have single := Tagged.char c .nil
  rw [List.append_nil] at single
  exact ⟨[], [c], single, nofun, rfl⟩

theorem emphasised_tag {t : String} (h : t ∈ emphasisTags) : Emphasised [] t.toList :=
  ⟨[t], [], tagged_single t, List.forall_mem_singleton.2 h, rfl⟩

theorem not_mem_emphasisTag {m : Char} (hm : m ∈ markChars) :
    ∀ t ∈ emphasisTags, m ∉ t.toList := by
  have apart : ∀ t ∈ emphasisTags, (markChars.all fun m => m ∉ t.toList) = true := by decide
  intro t ht
  simpa using List.all_eq_true.1 (apart t ht) m hm

theorem not_mem_referenceChars {m : Char} (hm : m ∈ markChars) : m ∉ referenceChars := by
  have apart : (markChars.all fun m => m ∉ referenceChars) = true := by decide
  simpa using List.all_eq_true.1 apart m hm

/-- A mark is no reference, and is in none. -/
theorem contentChar_mark {m c : Char} (hm : m ∈ markChars) (h : m ∈ contentChar c) :
    c = m ∧ contentChar c = [c] := by
  rcases contentChar_cases c with reference | ⟨same, -⟩
  · exact absurd (reference m h) (not_mem_referenceChars hm)
  · rw [same] at h
    exact ⟨(List.mem_singleton.1 h).symm, same⟩

/-- A text ends before a mark as it would end without it. -/
theorem Emphasised.before_mark {m : Char} {front back : List Char}
    (h : Emphasised words (front ++ m :: back)) (hm : m ∈ markChars) :
    ∃ before after, words = before ++ after ∧ Emphasised before front ∧
      Emphasised after (m :: back) := by
  obtain ⟨tags, source, tagged, emphasis, rfl⟩ := h
  have apart : ∀ t ∈ tags, m ∉ t.toList.tail := fun t ht inTail =>
    not_mem_emphasisTag hm t (emphasis t ht) (List.mem_of_mem_tail inTail)
  obtain ⟨before, after, source, source', rfl, rfl, hfront, hback⟩ :=
    tagged.cut (not_mem_referenceChars hm) apart rfl
  obtain ⟨inFront, behind⟩ := List.forall_mem_append.1 emphasis
  exact ⟨unmarked source, unmarked source', List.filter_append ..,
    ⟨before, source, hfront, inFront, rfl⟩, after, source', hback, behind, rfl⟩

theorem Emphasised.after_char {m : Char} (h : Emphasised words (m :: cs)) (hm : m ∈ markChars) :
    Emphasised words cs := by
  obtain ⟨tags, source, tagged, emphasis, rfl⟩ := h
  generalize hds : m :: cs = ds at tagged
  cases tagged with
  | nil => cases hds
  | @char tags source ds c rest =>
    have inChar : m ∈ contentChar c := by
      obtain ⟨x, xs, hc⟩ := List.exists_cons_of_ne_nil (contentChar_ne_nil c)
      rw [hc, List.cons_append] at hds
      obtain ⟨rfl, -⟩ := List.cons.inj hds
      exact hc ▸ List.mem_cons_self ..
    obtain ⟨rfl, single⟩ := contentChar_mark hm inChar
    rw [single] at hds
    obtain ⟨-, rfl⟩ := List.cons.inj hds
    exact ⟨tags, source, rest, emphasis, (List.filter_cons_of_neg (by simpa using hm)).symm⟩
  | tag t rest =>
    -- a tag would start with the mark
    have inTags := emphasis t (List.mem_cons_self ..)
    have filled : ∀ t ∈ emphasisTags, t.toList ≠ [] := by decide
    obtain ⟨x, xs, ht⟩ := List.exists_cons_of_ne_nil (filled t inTags)
    rw [ht, List.cons_append] at hds
    obtain ⟨rfl, -⟩ := List.cons.inj hds
    exact absurd (ht ▸ List.mem_cons_self ..) (not_mem_emphasisTag hm t inTags)

theorem Emphasised.after_mark {mark : List Char} (marks : ∀ m ∈ mark, m ∈ markChars)
    (h : Emphasised words (mark ++ cs)) : Emphasised words cs := by
  induction mark with
  | nil => exact h
  | cons m mark ih =>
    rw [List.forall_mem_cons] at marks
    exact ih marks.2 (h.after_char marks.1)

/-! ## Conversion -/

theorem untilMark_eq {mark : List Char} : ∀ {cs inner : List Char},
    untilMark mark cs = some inner → ∃ rest, cs = inner ++ mark ++ rest ∧ inner ≠ []
  | c :: cs, inner, h => by
    unfold untilMark at h
    split at h
    · cases h
    · split at h
      · rename_i found
        obtain ⟨rest, rfl⟩ := List.isPrefixOf_iff_prefix.1 found
        cases h
        exact ⟨rest, rfl, List.cons_ne_nil _ _⟩
      · obtain ⟨inner, found, rfl⟩ := Option.map_eq_some_iff.1 h
        obtain ⟨rest, rfl, -⟩ := untilMark_eq found
        exact ⟨rest, rfl, List.cons_ne_nil _ _⟩

section

variable {mark opening closing : List Char}

/-- What is passed over is dropped. -/
theorem convertFrom_skip (skip : Nat) : ∀ cs : List Char,
    convertFrom mark opening closing skip cs =
      convertFrom mark opening closing 0 (cs.drop skip) := by
  induction skip with
  | zero => exact fun cs => rfl
  | succ skip ih =>
    intro cs
    cases cs with
    | nil => rfl
    | cons c cs => exact ih cs

/-- Text without the first character of a mark stays. -/
theorem convertFrom_front {m : Char} {ms : List Char} {front : List Char} (apart : m ∉ front)
    (cs : List Char) : convertFrom (m :: ms) opening closing 0 (front ++ cs) =
      front ++ convertFrom (m :: ms) opening closing 0 cs := by
  induction front with
  | nil => rfl
  | cons c front ih =>
    rw [List.mem_cons, not_or] at apart
    rw [List.cons_append, convertFrom, if_neg (by simp [apart.1]), ih apart.2, List.cons_append]

/-- The texts between the pairs of marks that `convertFrom` finds. -/
def pairsFrom (mark : List Char) : Nat → List Char → List (List Char)
  | _, [] => []
  | skip + 1, _ :: cs => pairsFrom mark skip cs
  | 0, c :: cs =>
    if mark.isPrefixOf (c :: cs) then
      match untilMark mark ((c :: cs).drop mark.length) with
      | some inner => inner :: pairsFrom mark (2 * mark.length + inner.length - 1) cs
      | none => pairsFrom mark 0 cs
    else pairsFrom mark 0 cs

theorem pairsFrom_skip (skip : Nat) : ∀ cs : List Char,
    pairsFrom mark skip cs = pairsFrom mark 0 (cs.drop skip) := by
  induction skip with
  | zero => exact fun cs => rfl
  | succ skip ih =>
    intro cs
    cases cs with
    | nil => rfl
    | cons c cs => exact ih cs

theorem pairsFrom_front {m : Char} {ms : List Char} {front : List Char} (apart : m ∉ front)
    (cs : List Char) : pairsFrom (m :: ms) 0 (front ++ cs) = pairsFrom (m :: ms) 0 cs := by
  induction front with
  | nil => rfl
  | cons c front ih =>
    rw [List.mem_cons, not_or] at apart
    rw [List.cons_append, pairsFrom, if_neg (by simp [apart.1]), ih apart.2]

/-- A character stays, or it starts a text between marks, which is set off. -/
theorem convertFrom_pairsFrom (m : Char) (ms opening closing : List Char) (c : Char)
    (cs : List Char) :
    (convertFrom (m :: ms) opening closing 0 (c :: cs) =
        c :: convertFrom (m :: ms) opening closing 0 cs ∧
      pairsFrom (m :: ms) 0 (c :: cs) = pairsFrom (m :: ms) 0 cs) ∨
      ∃ inner after, c :: cs = (m :: ms) ++ (inner ++ m :: (ms ++ after)) ∧
        convertFrom (m :: ms) opening closing 0 (c :: cs) =
          opening ++ inner ++ closing ++ convertFrom (m :: ms) opening closing 0 after ∧
        pairsFrom (m :: ms) 0 (c :: cs) = inner :: pairsFrom (m :: ms) 0 after := by
  rw [convertFrom.eq_3 (m :: ms) opening closing c cs, pairsFrom.eq_3 (m :: ms) c cs]
  by_cases found : (m :: ms).isPrefixOf (c :: cs) = true
  · rw [if_pos found, if_pos found]
    obtain ⟨back, hback⟩ := List.isPrefixOf_iff_prefix.1 found
    cases hinner : untilMark (m :: ms) ((c :: cs).drop (m :: ms).length) with
    | none => exact .inl ⟨rfl, rfl⟩
    | some inner =>
      obtain ⟨after, hafter, -⟩ := untilMark_eq hinner
      rw [← hback, List.drop_left] at hafter
      subst hafter
      refine .inr ⟨inner, after, by rw [← hback]; simp, ?_⟩
      have cut : c :: cs = ((m :: ms) ++ inner ++ (m :: ms)) ++ after := by rw [← hback]; simp
      have length : ((m :: ms) ++ inner ++ (m :: ms)).length =
          2 * (m :: ms).length + inner.length - 1 + 1 := by
        simp only [List.length_append, List.length_cons]
        omega
      have skipped : cs.drop (2 * (m :: ms).length + inner.length - 1) = after := by
        rw [← List.drop_succ_cons (a := c), cut, ← length, List.drop_left]
      dsimp only
      rw [convertFrom_skip, pairsFrom_skip (2 * _ + _ - 1), skipped]
      exact ⟨rfl, rfl⟩
  · rw [if_neg found, if_neg found]
    exact .inl ⟨rfl, rfl⟩

theorem convertFrom_cons {m : Char} {ms : List Char} (c : Char) (cs : List Char) :
    convertFrom (m :: ms) opening closing 0 (c :: cs) =
        c :: convertFrom (m :: ms) opening closing 0 cs ∨
      ∃ inner after, c :: cs = (m :: ms) ++ (inner ++ m :: (ms ++ after)) ∧
        convertFrom (m :: ms) opening closing 0 (c :: cs) =
          opening ++ inner ++ closing ++ convertFrom (m :: ms) opening closing 0 after :=
  (convertFrom_pairsFrom m ms opening closing c cs).imp And.left fun ⟨inner, after, cut, same, _⟩ =>
    ⟨inner, after, cut, same⟩

end

/-- Marks become tags; what is between and around them stays. -/
theorem convertFrom_emphasised {m : Char} {ms : List Char} {opening closing : String}
    (marks : ∀ x ∈ m :: ms, x ∈ markChars) (ho : opening ∈ emphasisTags)
    (hc : closing ∈ emphasisTags) (words cs : List Char) (h : Emphasised words cs) :
    Emphasised words (convertFrom (m :: ms) opening.toList closing.toList 0 cs) := by
  obtain ⟨tags, source, tagged, emphasis, rfl⟩ := h
  have hm : m ∈ markChars := marks m (List.mem_cons_self ..)
  cases tagged with
  | nil => exact emphasised_nil
  | @tag tags source cs t rest =>
    rw [List.forall_mem_cons] at emphasis
    have filled : ∀ t ∈ emphasisTags, 0 < t.toList.length := by decide
    have shorter : cs.length < (t.toList ++ cs).length := by
      have := filled t emphasis.1
      rw [List.length_append]
      omega
    rw [convertFrom_front (not_mem_emphasisTag hm t emphasis.1)]
    exact (emphasised_tag emphasis.1).append
      (convertFrom_emphasised marks ho hc _ cs ⟨tags, source, rest, emphasis.2, rfl⟩)
  | @char _ source cs c rest =>
    have shorter : cs.length < (contentChar c ++ cs).length := by
      have := List.length_pos_iff.2 (contentChar_ne_nil c)
      rw [List.length_append]
      omega
    have kept : Emphasised (unmarked (c :: source))
        (contentChar c ++ convertFrom (m :: ms) opening.toList closing.toList 0 cs) := by
      have whole := (emphasised_char c).append
        (convertFrom_emphasised marks ho hc _ cs ⟨tags, source, rest, emphasis, rfl⟩)
      rwa [unmarked, unmarked, ← List.filter_append] at whole
    by_cases hmark : m ∈ contentChar c
    · obtain ⟨rfl, single⟩ := contentChar_mark hm hmark
      have whole : Emphasised (unmarked (c :: source)) (contentChar c ++ cs) :=
        ⟨tags, c :: source, .char c rest, emphasis, rfl⟩
      rw [single] at whole kept ⊢
      obtain same | ⟨inner, after, cut, same⟩ := convertFrom_cons c cs
      · exact same ▸ kept
      · -- no tag and no reference reaches across a mark
        rw [List.singleton_append, cut] at whole
        obtain ⟨before, behind, words, inside, outside⟩ := (whole.after_mark marks).before_mark hm
        have shorter : after.length < (contentChar c ++ cs).length := by
          rw [single, List.singleton_append, cut]
          simp only [List.length_append, List.length_cons]
          omega
        have more := convertFrom_emphasised marks ho hc _ after (outside.after_mark marks)
        have shown := (((emphasised_tag ho).append inside).append (emphasised_tag hc)).append more
        rw [List.nil_append, List.append_nil, ← words] at shown
        exact same ▸ shown
    · rw [convertFrom_front hmark]
      exact kept
termination_by cs.length

theorem convert_emphasised {mark tag : String} (filled : mark.toList ≠ [])
    (marks : mark.toList.all (· ∈ markChars) = true) (ho : "<" ++ tag ++ ">" ∈ emphasisTags)
    (hc : "</" ++ tag ++ ">" ∈ emphasisTags) (h : Emphasised words cs) :
    Emphasised words (convert mark tag cs) := by
  obtain ⟨m, ms, hmark⟩ := List.exists_cons_of_ne_nil filled
  rw [hmark, List.all_eq_true] at marks
  rw [convert, hmark]
  exact convertFrom_emphasised (fun x hx => of_decide_eq_true (marks x hx)) ho hc words cs h

/-- Inline markup has no tags but those of emphases, and shows its text without marks. -/
theorem html_emphasised (s : String) : Emphasised (unmarked s.toList) (html s).toList := by
  have escaped : Emphasised (unmarked s.toList) (escapeContent s).toList :=
    ⟨[], s.toList, tagged_escapeContent s, nofun, rfl⟩
  rw [html, toTags, String.toList_ofList]
  refine convert_emphasised (by decide) (by decide) (by decide) (by decide) ?_
  refine convert_emphasised (by decide) (by decide) (by decide) (by decide) ?_
  refine convert_emphasised (by decide) (by decide) (by decide) (by decide) ?_
  exact convert_emphasised (by decide) (by decide) (by decide) (by decide) escaped

theorem wrap_emphasised (e : Emphasis) (s : String) :
    Emphasised (unmarked s.toList) (wrap e (html s)).toList := by
  have around (tag : String) (ho : "<" ++ tag ++ ">" ∈ emphasisTags)
      (hc : "</" ++ tag ++ ">" ∈ emphasisTags) :
      Emphasised (unmarked s.toList)
        ("<" ++ tag ++ ">" ++ html s ++ "</" ++ tag ++ ">").toList := by
    have inner := (emphasised_tag ho).append (html_emphasised s)
    simpa [String.toList_append] using inner.append (emphasised_tag hc)
  cases e with
  | normal => exact html_emphasised s
  | bold => exact around "strong" (by decide) (by decide)
  | italic => exact around "em" (by decide) (by decide)
  | code => exact around "code" (by decide) (by decide)
  | strikethrough => exact around "del" (by decide) (by decide)

/-- A set-off line that starts with an angle bracket starts with a tag of an emphasis. -/
theorem wrap_html_opening (e : Emphasis) (s : String) {c : Char} {cs : List Char}
    (h : (wrap e (html s)).toList = '<' :: c :: cs) : c ∈ ['s', 'e', 'c', 'd', '/'] := by
  obtain ⟨tags, source, tagged, emphasis, -⟩ := wrap_emphasised e s
  have apart : ∀ t ∈ emphasisTags, (!t.toList.tail.contains '<') = true := by decide
  have starts : ∀ t ∈ emphasisTags, (['s', 'e', 'c', 'd', '/'].any fun d =>
      t.toList.take 2 = ['<', d]) = true := by decide
  have once : ∀ t ∈ tags, '<' ∉ t.toList.tail := fun t ht => by simpa using apart t (emphasis t ht)
  have opened : (wrap e (html s)).toList = [] ++ '<' :: c :: cs := h
  obtain ⟨t, ht, start⟩ := tagged.opens once opened
  obtain ⟨d, hd, second⟩ := List.any_eq_true.1 (starts t (emphasis t ht))
  obtain ⟨rest, hrest⟩ := start
  rw [← List.take_append_drop 2 t.toList, of_decide_eq_true second] at hrest
  obtain ⟨rfl, -⟩ := List.cons.inj (List.cons.inj hrest).2
  exact hd

end ProfileReadme.Inline
