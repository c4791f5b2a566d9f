/-
Markup as the characters of a text, each escaped, with tags between them. No bracket stands outside
a tag, so a text that can be cut up like this shows at each opening bracket which tag starts there.
-/
import ProfileReadme.Text.Markup

namespace ProfileReadme.Text

/-- A text of tags, in order, and of the characters of a source, each as its reference. -/
inductive Tagged : List String → List Char → List Char → Prop
  | nil : Tagged [] [] []
  | char {tags : List String} {source cs : List Char} (c : Char) (rest : Tagged tags source cs) :
      Tagged tags (c :: source) (contentChar c ++ cs)
  | tag {tags : List String} {source cs : List Char} (t : String) (rest : Tagged tags source cs) :
      Tagged (t :: tags) source (t.toList ++ cs)

variable {tags tags' : List String} {source source' cs ds : List Char}

theorem Tagged.append (h : Tagged tags source cs) (h' : Tagged tags' source' ds) :
    Tagged (tags ++ tags') (source ++ source') (cs ++ ds) := by
  induction h with
  | nil => exact h'
  | char c _ ih =>
    rw [List.append_assoc]
    exact .char c ih
  | tag t _ ih =>
    rw [List.append_assoc]
    exact .tag t ih

theorem tagged_escapeContent (s : String) : Tagged [] s.toList (escapeContent s).toList := by
  rw [escapeContent, String.toList_ofList]
  induction s.toList with
  | nil => exact .nil
  | cons c cs ih => exact .char c ih

theorem tagged_single (t : String) : Tagged [t] [] t.toList := by
  have single := Tagged.tag t .nil
  rwa [List.append_nil] at single

/-! ## Escapes -/

/-- The characters of the references for markup characters. -/
def referenceChars : List Char :=
  ['&', 'a', 'm', 'p', 'l', 'g', 't', 'q', 'u', 'o', '#', 'x', '2', '7', ';']

theorem contentChar_cases (c : Char) :
    (∀ d ∈ contentChar c, d ∈ referenceChars) ∨ (contentChar c = [c] ∧ c ≠ '<' ∧ c ≠ '>') := by
  unfold contentChar
  split
  · exact .inl (by simp [referenceChars])
  · split
    · exact .inl (by simp [referenceChars])
    · split
      · exact .inl (by simp [referenceChars])
      next opening closing => exact .inr ⟨rfl, opening, closing⟩

theorem contentChar_ne_nil (c : Char) : contentChar c ≠ [] := by
  unfold contentChar
  split
  · decide
  · split
    · decide
    · split
      · decide
      · exact List.cons_ne_nil c []

/-- No bracket is left in an escaped text. -/
theorem not_bracket_contentChar (c : Char) : ∀ d ∈ contentChar c, d ≠ '<' ∧ d ≠ '>' := by
  rcases contentChar_cases c with reference | ⟨same, apart⟩
  · have all : ∀ d ∈ referenceChars, d ≠ '<' ∧ d ≠ '>' := by simp [referenceChars]
    exact fun d hd => all d (reference d hd)
  · rw [same]
    exact List.forall_mem_singleton.2 apart

/-- No quote and no bracket is left in an escaped attribute. -/
theorem not_mark_escapeAttribute (s : String) :
    ∀ d ∈ (escapeAttribute s).toList, d ≠ '"' ∧ d ≠ '<' ∧ d ≠ '>' := by
  have references : ∀ d ∈ referenceChars, d ≠ '"' ∧ d ≠ '<' ∧ d ≠ '>' := by simp [referenceChars]
  intro d hd
  rw [escapeAttribute, String.toList_ofList, List.mem_flatMap] at hd
  obtain ⟨c, -, hd⟩ := hd
  unfold attributeChar at hd
  split at hd
  · have all : ∀ d ∈ "&quot;".toList, d ∈ referenceChars := by simp [referenceChars]
    exact references d (all d hd)
  next quote =>
    split at hd
    · have all : ∀ d ∈ "&#x27;".toList, d ∈ referenceChars := by simp [referenceChars]
      exact references d (all d hd)
    · rcases contentChar_cases c with reference | ⟨same, apart⟩
      · exact references d (reference d hd)
      · rw [same] at hd
        obtain rfl := List.mem_singleton.1 hd
        exact ⟨quote, apart⟩

theorem mem_tail_contentChar {c d : Char} (h : d ∈ (contentChar c).tail) : d ∈ referenceChars := by
  rcases contentChar_cases c with reference | ⟨same, -⟩
  · exact reference d (List.mem_of_mem_tail h)
  · rw [same] at h
    cases h

/-! ## Cuts -/

/-- A piece is cut off whole before a character that is only at its start, if at all. -/
theorem cut_piece {piece xs ys : List Char} {m : Char} (apart : m ∉ piece.tail)
    (same : piece ++ cs = xs ++ m :: ys) :
    xs = [] ∨ ∃ zs, xs = piece ++ zs ∧ cs = zs ++ m :: ys := by
  obtain ⟨zs, hxs, hcs⟩ | ⟨zs, hpiece, hys⟩ := List.append_eq_append_iff.1 same
  · exact .inr ⟨zs, hxs, hcs⟩
  · cases xs with
    | nil => exact .inl rfl
    | cons x xs =>
      cases zs with
      | nil => exact .inr ⟨[], by rw [hpiece, List.append_nil, List.append_nil], hys.symm⟩
      | cons z zs =>
        obtain ⟨rfl, -⟩ := List.cons.inj hys
        exact absurd (hpiece ▸ List.mem_append_right xs (List.mem_cons_self ..)) apart

/-- A text is cut into two before a character that no tag holds but at its start. -/
theorem Tagged.cut {m : Char} (h : Tagged tags source cs) (outside : m ∉ referenceChars)
    (apart : ∀ t ∈ tags, m ∉ t.toList.tail) : ∀ {xs ys : List Char}, cs = xs ++ m :: ys →
      ∃ before after front back, tags = before ++ after ∧ source = front ++ back ∧
        Tagged before front xs ∧ Tagged after back (m :: ys) := by
  induction h with
  | nil =>
    intro xs ys same
    cases xs <;> cases same
  | @char tags source cs c rest ih =>
    intro xs ys same
    have inPiece : m ∉ (contentChar c).tail := fun inTail => outside (mem_tail_contentChar inTail)
    obtain rfl | ⟨zs, rfl, hcs⟩ := cut_piece inPiece same
    · rw [List.nil_append] at same
      exact ⟨[], tags, [], c :: source, rfl, rfl, .nil, same ▸ .char c rest⟩
    · obtain ⟨before, after, front, back, rfl, rfl, hzs, hys⟩ := ih apart hcs
      exact ⟨before, after, c :: front, back, rfl, rfl, .char c hzs, hys⟩
  | @tag tags source cs t rest ih =>
    intro xs ys same
    rw [List.forall_mem_cons] at apart
    obtain rfl | ⟨zs, rfl, hcs⟩ := cut_piece apart.1 same
    · rw [List.nil_append] at same
      exact ⟨[], t :: tags, [], source, rfl, rfl, .nil, same ▸ .tag t rest⟩
    · obtain ⟨before, after, front, back, rfl, rfl, hzs, hys⟩ := ih apart.2 hcs
      exact ⟨t :: before, after, front, back, rfl, rfl, .tag t hzs, hys⟩

/-- What starts with an opening bracket starts with a tag, if each tag does and does so once. -/
theorem Tagged.opens (h : Tagged tags source cs) (apart : ∀ t ∈ tags, '<' ∉ t.toList.tail)
    {xs ys : List Char} (same : cs = xs ++ '<' :: ys) : ∃ t ∈ tags, t.toList <+: '<' :: ys := by
  obtain ⟨before, after, front, back, rfl, rfl, -, hys⟩ := h.cut (by decide) apart same
  generalize hline : '<' :: ys = line at hys
  cases hys with
  | nil => cases hline
  | char c rest =>
    obtain ⟨d, ds, hc⟩ := List.exists_cons_of_ne_nil (contentChar_ne_nil c)
    rw [hc] at hline
    obtain ⟨rfl, -⟩ := List.cons.inj hline
    exact absurd rfl (not_bracket_contentChar c _ (hc ▸ List.mem_cons_self ..)).1
  | tag t rest => exact ⟨t, List.mem_append_right _ (List.mem_cons_self ..), List.prefix_append ..⟩

end ProfileReadme.Text
