/-
Attribute values that are written and read again: the quotes around a value do not occur in it, and
its references stand for the characters that they were written for.
-/
import ProfileReadme.Markup.Node
import ProfileReadme.Proofs.Text.Substitution

namespace ProfileReadme

namespace Markup

/-! ## References -/

/-- A name that stands for a character when a semicolon ends it. -/
structure IsReference (name : List Char) (c : Char) : Prop where
  filled : name ≠ []
  short : name.length < longestName
  chars : ∀ d ∈ name, isNameChar d = true
  letters : ∀ d ∈ name, d.isAlpha = true
  means : named? name = some [c]

/-- A basic name stands for its character: nothing else is looked up. -/
theorem isReference_basic {name : List Char} {c : Char}
    (basic : basicReferences.lookup name = some [c]) (filled : name ≠ [])
    (short : name.length < longestName) (chars : name.all isNameChar = true)
    (letters : name.all Char.isAlpha = true) : IsReference name c := by
  refine ⟨filled, short, List.all_eq_true.1 chars, List.all_eq_true.1 letters, ?_⟩
  unfold named?
  rw [basic]
  rfl

theorem isReference_amp : IsReference "amp".toList '&' :=
  isReference_basic (by decide) (by decide) (by decide) (by decide) (by decide)

theorem isReference_lt : IsReference "lt".toList '<' :=
  isReference_basic (by decide) (by decide) (by decide) (by decide) (by decide)

theorem isReference_gt : IsReference "gt".toList '>' :=
  isReference_basic (by decide) (by decide) (by decide) (by decide) (by decide)

theorem isReference_quot : IsReference "quot".toList '"' :=
  isReference_basic (by decide) (by decide) (by decide) (by decide) (by decide)

theorem unescapeFrom_skip (front rest : List Char) :
    unescapeFrom front.length (front ++ rest) = unescapeFrom 0 rest := by
  induction front with
  | nil => rfl
  | cons c front ih => exact ih

variable {name : List Char} {c : Char}

theorem IsReference.resolveName (h : IsReference name c) (rest : List Char) :
    resolveName (name ++ ';' :: rest) = some ([c], name.length + 1) := by
  have run : ((name ++ ';' :: rest).take longestName).takeWhile isNameChar = name := by
    have room : longestName - name.length = (longestName - name.length - 1) + 1 := by
      have := h.short
      omega
    rw [List.take_append, List.take_of_length_le (Nat.le_of_lt h.short), room, List.take_succ_cons,
      List.takeWhile_append_of_pos h.chars]
    exact List.append_nil name
  have filled : name.isEmpty = false := by
    rw [List.isEmpty_eq_false_iff]
    exact h.filled
  have closed : ((name ++ ';' :: rest).drop name.length).head? == some ';' := by
    rw [List.drop_left]
    rfl
  unfold Markup.resolveName
  simp only [run, filled, closed, h.means, Bool.false_eq_true, if_false, if_true]

/-- A reference in a value is the character that it stands for. -/
theorem IsReference.unescapeFrom (h : IsReference name c) (rest : List Char) :
    unescapeFrom 0 ('&' :: (name ++ ';' :: rest)) = c :: unescapeFrom 0 rest := by
  have passed : Markup.unescapeFrom (name.length + 1) (name ++ ';' :: rest) =
      Markup.unescapeFrom 0 rest := by
    have := unescapeFrom_skip (name ++ [';']) rest
    rwa [List.length_append, List.append_assoc] at this
  conv => lhs; unfold Markup.unescapeFrom
  rw [if_pos rfl]
  split
  · -- no name starts with the sign of a number
    rename_i digits number
    obtain ⟨d, ds, rfl⟩ := List.exists_cons_of_ne_nil h.filled
    have sign := h.chars d (List.mem_cons_self ..)
    rw [List.cons_append] at number
    rw [(List.cons.inj number).1] at sign
    exact absurd sign (by decide)
  · rw [h.resolveName]
    exact congrArg ([c] ++ ·) passed

/-- Each character stands for itself, or has a reference. -/
theorem unescapeFrom_flatMap {escape : Char → List Char}
    (h : ∀ c, (escape c = [c] ∧ c ≠ '&') ∨
      ∃ name, escape c = '&' :: (name ++ [';']) ∧ IsReference name c) (cs : List Char) :
    unescapeFrom 0 (cs.flatMap escape) = cs := by
  induction cs with
  | nil => rfl
  | cons c cs ih =>
    rw [List.flatMap_cons]
    rcases h c with ⟨plain, notMark⟩ | ⟨name, written, reference⟩
    · rw [plain, List.singleton_append]
      conv => lhs; unfold Markup.unescapeFrom
      rw [if_neg notMark, ih]
    · rw [written, List.cons_append, List.append_assoc]
      exact (reference.unescapeFrom _).trans (congrArg (c :: ·) ih)

theorem ne_of_not_isMark (h : isMark c = false) : c ≠ '&' := by
  rintro rfl
  exact absurd h (by decide)

theorem contentChar_cases (c : Char) : (Text.contentChar c = [c] ∧ isMark c = false) ∨
    ∃ name, Text.contentChar c = '&' :: (name ++ [';']) ∧ IsReference name c := by
  unfold Text.contentChar
  split
  · subst_vars
    exact .inr ⟨_, rfl, isReference_amp⟩
  · split
    · subst_vars
      exact .inr ⟨_, rfl, isReference_lt⟩
    · split
      · subst_vars
        exact .inr ⟨_, rfl, isReference_gt⟩
      · rename_i ampersand opening _
        refine .inl ⟨rfl, ?_⟩
        rw [isMark, decide_eq_false ampersand, decide_eq_false opening]
        rfl

/-! ## Quoted values -/

/-- The character in a value that stands in double quotes. -/
def quotedChar (c : Char) : List Char := if c = '"' then "&quot;".toList else Text.contentChar c

theorem quotedChar_cases (c : Char) : (quotedChar c = [c] ∧ c ≠ '&') ∨
    ∃ name, quotedChar c = '&' :: (name ++ [';']) ∧ IsReference name c := by
  unfold quotedChar
  split
  · subst_vars
    exact .inr ⟨_, rfl, isReference_quot⟩
  · exact (contentChar_cases c).imp_left fun h => ⟨h.1, ne_of_not_isMark h.2⟩

theorem replace_quote (v : String) :
    (Text.replace (Text.escapeContent v) "\"" "&quot;").toList = v.toList.flatMap quotedChar := by
  -- what escapes have put in holds no quote
  have each (c : Char) :
      ((Text.contentChar c).flatMap fun d => if d = '"' then "&quot;".toList else [d]) =
        quotedChar c := by
    by_cases quote : c = '"'
    · subst quote
      decide
    · unfold quotedChar Text.contentChar
      rw [if_neg quote]
      split
      · decide
      · split
        · decide
        · split
          · decide
          · exact (List.flatMap_singleton ..).trans (if_neg quote)
  have filled : "\"".isEmpty = false := by decide
  unfold Text.replace
  rw [filled, if_neg Bool.false_ne_true, String.toList_ofList]
  refine (Text.replaceFrom_char '"' _ _).trans ?_
  have inner : (Text.escapeContent v).toList = v.toList.flatMap Text.contentChar :=
    String.toList_ofList
  rw [inner]
  refine (List.flatMap_assoc ..).trans ?_
  exact congrArg (v.toList.flatMap ·) (funext each)

theorem not_mem_quotedChar (c : Char) : '"' ∉ quotedChar c := by
  unfold quotedChar Text.contentChar
  split
  · decide
  · rename_i apart
    split
    · decide
    · split
      · decide
      · split
        · decide
        · exact fun h => apart (List.mem_singleton.1 h).symm

theorem unescape_quoted (v : String) :
    unescape (String.ofList (v.toList.flatMap quotedChar)) = v := by
  rw [unescape, String.toList_ofList, unescapeFrom_flatMap quotedChar_cases, String.ofList_toList]

theorem unescape_escapeContent (v : String) : unescape (Text.escapeContent v) = v := by
  have each (c : Char) : (Text.contentChar c = [c] ∧ c ≠ '&') ∨
      ∃ name, Text.contentChar c = '&' :: (name ++ [';']) ∧ IsReference name c :=
    (contentChar_cases c).imp_left fun h => ⟨h.1, ne_of_not_isMark h.2⟩
  rw [unescape, Text.escapeContent, String.toList_ofList, unescapeFrom_flatMap each,
    String.ofList_toList]

/-- A written value: two equal quotes around a text without them, which is read as the value. -/
structure IsQuoted (v : String) (q : Char) (body : List Char) : Prop where
  quote : q = '"' ∨ q = '\x27'
  inside : q ∉ body
  back : unescape (String.ofList body) = v

/-- Double quotes have a reference of their own, so there is always a pair of quotes to choose. -/
theorem quoteValue_escaped (v : String) : ∃ q body, IsQuoted v q body ∧
    (quoteValue (Text.escapeContent v)).toList = q :: (body ++ [q]) := by
  unfold quoteValue
  have whole : unescape (String.ofList (Text.escapeContent v).toList) = v := by
    rw [String.ofList_toList, unescape_escapeContent]
  split
  · split
    · refine ⟨'"', v.toList.flatMap quotedChar, ⟨.inl rfl, ?_, unescape_quoted v⟩, ?_⟩
      · rw [List.mem_flatMap]
        exact fun ⟨c, _, h⟩ => not_mem_quotedChar c h
      · rw [String.toList_append, String.toList_append, replace_quote]
        rfl
    · rename_i single
      rw [List.contains_iff_mem] at single
      refine ⟨'\x27', (Text.escapeContent v).toList, ⟨.inr rfl, single, whole⟩, ?_⟩
      rw [String.toList_append, String.toList_append]
      rfl
  · rename_i double
    rw [List.contains_iff_mem] at double
    refine ⟨'"', (Text.escapeContent v).toList, ⟨.inl rfl, double, whole⟩, ?_⟩
    rw [String.toList_append, String.toList_append]
    rfl

end Markup

end ProfileReadme
