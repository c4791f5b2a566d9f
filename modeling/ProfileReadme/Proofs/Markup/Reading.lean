/-
Pieces of markup that are written and read again: each is read as the token that it was written
for, and the scan goes on behind it. The names that stay in markup are made of a few characters
that neither end a name nor change in lower case.
-/
import ProfileReadme.Markup.Sanitize
import ProfileReadme.Proofs.Markup.Ended
import ProfileReadme.Proofs.Markup.Quoting
import ProfileReadme.Proofs.Text.Join

namespace ProfileReadme.Markup

/-! ## Names -/

/-- A character of the names that stay. -/
def isKeptChar (c : Char) : Bool := isLower c || c.isDigit || c ∈ ['_', ':', '.', '-']

theorem toNat_lt_of_isKeptChar {c : Char} (h : isKeptChar c = true) : c.toNat < 128 := by
  simp only [isKeptChar, isLower, Char.isDigit, Bool.or_eq_true, Bool.and_eq_true,
    decide_eq_true_eq, Char.le_def, UInt32.le_iff_toNat_le] at h
  rcases h with (⟨-, h⟩ | ⟨-, h⟩) | h
  · exact Nat.lt_of_le_of_lt h (by decide)
  · exact Nat.lt_of_le_of_lt h (by decide)
  · simp only [List.mem_cons, List.not_mem_nil, or_false] at h
    rcases h with rfl | rfl | rfl | rfl <;> decide

/-- What holds of every character that may stand in a name. -/
structure IsWordChar (c : Char) : Prop where
  inAttribute : isNameEnd c = false
  inElement : endsTagName c = false
  inClosing : isEndNameChar c = true
  lower : c.toLower = c

instance (c : Char) : Decidable (IsWordChar c) :=
  decidable_of_iff (isNameEnd c = false ∧ endsTagName c = false ∧ isEndNameChar c = true ∧
      c.toLower = c)
    ⟨fun ⟨a, b, d, e⟩ => ⟨a, b, d, e⟩, fun ⟨a, b, d, e⟩ => ⟨a, b, d, e⟩⟩

theorem isWordChar_of_isKeptChar {c : Char} (h : isKeptChar c = true) : IsWordChar c := by
  -- the names that stay are of the first 128 characters, which are looked at one by one
  have all : ∀ n < 128, isKeptChar (Char.ofNat n) = true → IsWordChar (Char.ofNat n) := by
    decide +kernel
  have := all c.toNat (toNat_lt_of_isKeptChar h)
  rw [Char.ofNat_toNat] at this
  exact this h

theorem isAlpha_of_isLower {c : Char} (h : isLower c = true) : c.isAlpha = true := by
  have all : ∀ n < 128, isLower (Char.ofNat n) = true → (Char.ofNat n).isAlpha = true := by
    decide +kernel
  have := all c.toNat (toNat_lt_of_isKeptChar (by simp [isKeptChar, h]))
  rw [Char.ofNat_toNat] at this
  exact this h

theorem lower_of_isKeptChar {s : String} (h : ∀ c ∈ s.toList, isKeptChar c = true) :
    Text.lower s = s := by
  have same : ∀ (cs before : List Char), (∀ c ∈ cs, isKeptChar c = true) →
      Text.lowerFrom before cs = cs := by
    intro cs
    induction cs with
    | nil => exact fun _ _ => rfl
    | cons c cs ih =>
      intro before kept
      obtain ⟨hc, hcs⟩ := List.forall_mem_cons.1 kept
      have small := toNat_lt_of_isKeptChar hc
      have sigma : c ≠ 'Σ' := by rintro rfl; exact absurd small (by decide)
      have dotted : c ≠ '\u0130' := by rintro rfl; exact absurd small (by decide)
      unfold Text.lowerFrom Text.lowerAt
      rw [if_neg sigma, if_neg dotted, if_pos small, (isWordChar_of_isKeptChar hc).lower,
        ih _ hcs]
      rfl
  rw [Text.lower, same _ _ h, String.ofList_toList]

/-- A name that stays: it is not empty, and all its characters are such. -/
structure IsKeptName (cs : List Char) : Prop where
  filled : cs ≠ []
  chars : ∀ c ∈ cs, isKeptChar c = true

theorem isKeptName_of_keepsElement {name : String} (h : keepsElement name = true) :
    IsKeptName name.toList ∧ ∀ c ∈ name.toList.head?, isLower c = true := by
  have h := (Bool.and_eq_true_iff.1 h).2
  unfold isElementName at h
  cases hn : name.toList with
  | nil => simp [hn] at h
  | cons c cs =>
    rw [hn] at h
    obtain ⟨first, rest⟩ := Bool.and_eq_true_iff.1 h
    refine ⟨⟨List.cons_ne_nil _ _, List.forall_mem_cons.2 ⟨?_, fun d hd => ?_⟩⟩, ?_⟩
    · simp [isKeptChar, first]
    · have := List.all_eq_true.1 rest d hd
      simp only [Bool.or_eq_true, decide_eq_true_eq] at this
      rcases this with (h | h) | rfl
      · simp [isKeptChar, h]
      · simp [isKeptChar, h]
      · rfl
    · rintro d ⟨⟩
      exact first

theorem isKeptName_of_keepsAttribute {name : String} (h : keepsAttribute name = true) :
    IsKeptName name.toList := by
  have h := (Bool.and_eq_true_iff.1 h).2
  unfold isAttributeName at h
  cases hn : name.toList with
  | nil => simp [hn] at h
  | cons c cs =>
    rw [hn] at h
    obtain ⟨first, rest⟩ := Bool.and_eq_true_iff.1 h
    refine ⟨List.cons_ne_nil _ _, List.forall_mem_cons.2 ⟨?_, fun d hd => ?_⟩⟩
    · simp only [Bool.or_eq_true, decide_eq_true_eq] at first
      rcases first with (h | rfl) | rfl
      · simp [isKeptChar, h]
      · rfl
      · rfl
    · have := List.all_eq_true.1 rest d hd
      simpa [isKeptChar] using this

/-! ## Attributes -/

/-- The attributes of a tag as they are written. -/
def attributesText (as : Attributes) : List Char := as.flatMap fun a => (writeAttribute a).toList

/-- The end of an opening tag, and whether the tag is closed by it. -/
def tagEnd (closed : Bool) : List Char := if closed then ['/', '>'] else ['>']

section

variable {v : String} {q : Char} {body : List Char}

theorem IsQuoted.takeQuoted (h : IsQuoted v q body) (rest : List Char) :
    takeQuoted (q :: (body ++ q :: rest)) = some (body, rest) := by
  have inside : ∀ c ∈ body, decide (c ≠ q) = true := fun c hc =>
    decide_eq_true fun same => h.inside (same ▸ hc)
  have stop : ∀ c ∈ (q :: rest).head?, decide (c ≠ q) = false := by
    rintro c ⟨⟩
    exact decide_eq_false fun other => other rfl
  obtain ⟨taken, left⟩ := Text.takeWhile_append_stop inside stop
  unfold Markup.takeQuoted
  dsimp only
  rw [left, taken]
  rcases h.quote with rfl | rfl <;> rfl

theorem IsQuoted.takeValue (h : IsQuoted v q body) (rest : List Char) :
    takeValue ('=' :: q :: (body ++ q :: rest)) = some (body, rest) := by
  have notBlank : ¬ Text.isBlank q = true := by rcases h.quote with rfl | rfl <;> decide
  have notSign : ¬ decide (q = '=') = true := by rcases h.quote with rfl | rfl <;> decide
  have signs : ('=' :: q :: (body ++ q :: rest)).dropWhile Text.isBlank =
      '=' :: q :: (body ++ q :: rest) := List.dropWhile_cons_of_neg (by decide)
  have afterSigns : ('=' :: q :: (body ++ q :: rest)).dropWhile (· = '=') =
      q :: (body ++ q :: rest) :=
    (List.dropWhile_cons_of_pos (by decide)).trans (List.dropWhile_cons_of_neg notSign)
  unfold Markup.takeValue
  dsimp only
  rw [signs, afterSigns, List.dropWhile_cons_of_neg notBlank, h.takeQuoted]
  rfl

end

theorem skipGaps_of_solid {c : Char} (solid : Text.isBlank c = false) (notSlash : c ≠ '/')
    (cs : List Char) : skipGaps (c :: cs) = c :: cs := by
  unfold skipGaps
  split
  · rename_i same
    cases same
  · rename_i same
    exact absurd (List.cons.inj same).1 notSlash
  · rename_i same
    cases same
    rw [solid]
    rfl

theorem skipGaps_tagEnd (closed : Bool) (rest : List Char) :
    skipGaps (tagEnd closed ++ rest) = tagEnd closed ++ rest := by
  cases closed <;> rfl

theorem skipGaps_blank (cs : List Char) : skipGaps (' ' :: cs) = skipGaps cs := rfl

theorem lastTaken_append (last x : Char) (front rest : List Char) :
    lastTaken last (front ++ x :: rest) rest = x := by
  have taken : (front ++ x :: rest).take ((front ++ x :: rest).length - rest.length) =
      front ++ [x] := by
    have split : front ++ x :: rest = (front ++ [x]) ++ rest := by simp
    rw [split, List.length_append, Nat.add_sub_cancel, List.take_left]
  unfold lastTaken
  rw [taken, List.getLast?_append]
  rfl

theorem length_attributesText (as : Attributes) : as.length ≤ (attributesText as).length := by
  induction as with
  | nil => exact Nat.le_refl 0
  | cons a as ih =>
    have first : 0 < (writeAttribute a).toList.length := by simp [writeAttribute]
    rw [attributesText, List.flatMap_cons, List.length_append, List.length_cons]
    have : as.length ≤ (as.flatMap fun a => (writeAttribute a).toList).length := ih
    omega

/-- What is put in place of one attribute after another. -/
def putAll (done : Attributes) (as : Attributes) : Attributes :=
  as.foldl (fun done a => putAttribute a.1 a.2 done) done

theorem takeAttributes_tagEnd (closed : Bool) (rest : List Char) (fuel : Nat) (last : Char)
    (done : Attributes) :
    takeAttributes (fuel + 1) last done (tagEnd closed ++ rest) =
      (done, tagEnd closed ++ rest) := by
  cases closed with
  | false =>
    show (if mayPrecede last && true && true && false then _ else _) = _
    rw [Bool.and_false, if_neg Bool.false_ne_true]
  | true =>
    show (if mayPrecede last && true && false && true then _ else _) = _
    rw [Bool.and_false, Bool.false_and, if_neg Bool.false_ne_true]

theorem not_isNameEnd {c : Char} (h : isNameEnd c = false) :
    Text.isBlank c = false ∧ c ≠ '/' ∧ c ≠ '>' := by
  unfold isNameEnd at h
  simp only [Bool.or_eq_false_iff, decide_eq_false_iff_not] at h
  exact ⟨h.1.1.1, h.1.1.2, h.2⟩

/-- A written attribute is a blank, its name and its quoted value; a gap before it ends at the
name. -/
theorem writeAttribute_toList {name : String} (kept : IsKeptName name.toList) (v : String) :
    ∃ q body, IsQuoted v q body ∧ ∀ more : List Char,
      (writeAttribute (name, v)).toList ++ more =
        ' ' :: (name.toList ++ '=' :: q :: (body ++ q :: more)) ∧
      skipGaps ((writeAttribute (name, v)).toList ++ more) =
        name.toList ++ '=' :: q :: (body ++ q :: more) := by
  obtain ⟨q, body, quoted, text⟩ := quoteValue_escaped v
  refine ⟨q, body, quoted, fun more => ?_⟩
  have written : (writeAttribute (name, v)).toList ++ more =
      ' ' :: (name.toList ++ '=' :: q :: (body ++ q :: more)) := by
    simp [writeAttribute, text]
  refine ⟨written, ?_⟩
  obtain ⟨c, ns, hn⟩ := List.exists_cons_of_ne_nil kept.filled
  have word := isWordChar_of_isKeptChar (kept.chars c (hn ▸ List.mem_cons_self ..))
  obtain ⟨solid, notSlash, -⟩ := not_isNameEnd word.inAttribute
  rw [written, skipGaps_blank, hn]
  exact skipGaps_of_solid solid notSlash _

/-- One written attribute is read, and the reading goes on behind the gap that follows it. -/
theorem takeAttributes_one {name v : String} {q : Char} {body : List Char}
    (kept : IsKeptName name.toList) (quoted : IsQuoted v q body) {last : Char}
    (before : mayPrecede last = true) (fuel : Nat) (done : Attributes) (more : List Char) :
    takeAttributes (fuel + 1) last done (name.toList ++ '=' :: q :: (body ++ q :: more)) =
      takeAttributes fuel
        (lastTaken last (name.toList ++ '=' :: q :: (body ++ q :: more)) (skipGaps more))
        (putAttribute name v done) (skipGaps more) := by
  have word : ∀ c ∈ name.toList, (!isNameEnd c) = true := fun c hc => by
    rw [(isWordChar_of_isKeptChar (kept.chars c hc)).inAttribute]
    rfl
  obtain ⟨c, ns, hn⟩ := List.exists_cons_of_ne_nil kept.filled
  have first := word c (hn ▸ List.mem_cons_self ..)
  have starts : (mayPrecede last && !Text.isBlank c && c ≠ '/' && c ≠ '>') = true := by
    obtain ⟨solid, notSlash, notClose⟩ := not_isNameEnd (Bool.not_eq_true' _ ▸ first)
    rw [before, solid, decide_eq_true notSlash, decide_eq_true notClose]
    rfl
  have inside : ∀ d ∈ ns, (!isNameEnd d) = true := fun d hd =>
    word d (hn ▸ List.mem_cons_of_mem _ hd)
  have stop : ∀ d ∈ ('=' :: q :: (body ++ q :: more)).head?, (!isNameEnd d) = false := by
    rintro d ⟨⟩
    rfl
  obtain ⟨taken, left⟩ := Text.takeWhile_append_stop inside stop
  have lower : Text.lower (String.ofList (c :: ns)) = name := by
    rw [← hn, String.ofList_toList]
    exact lower_of_isKeptChar kept.chars
  rw [hn, List.cons_append]
  conv => lhs; unfold takeAttributes
  dsimp only
  rw [if_pos starts, taken, left, quoted.takeValue, lower]
  dsimp only [Option.getD_some]
  rw [quoted.back]

/-- Written attributes are read one by one, from behind the blank that stands before each. -/
theorem takeAttributes_written (closed : Bool) (rest : List Char) : ∀ (as : Attributes)
    (fuel : Nat) (last : Char) (done : Attributes), (∀ a ∈ as, IsKeptName a.1.toList) →
    as.length < fuel → (as ≠ [] → mayPrecede last = true) →
    takeAttributes fuel last done (skipGaps (attributesText as ++ (tagEnd closed ++ rest))) =
      (putAll done as, tagEnd closed ++ rest)
  | [], fuel + 1, last, done, _, _, _ => by
    rw [attributesText, List.flatMap_nil, List.nil_append, skipGaps_tagEnd]
    exact takeAttributes_tagEnd closed rest fuel last done
  | (name, v) :: as, fuel + 1, last, done, kept, room, before => by
    obtain ⟨keptName, kept⟩ := List.forall_mem_cons.1 kept
    obtain ⟨q, body, quoted, text⟩ := writeAttribute_toList keptName v
    rw [attributesText, List.flatMap_cons, List.append_assoc, (text _).2,
      takeAttributes_one keptName quoted (before (List.cons_ne_nil _ _))]
    refine takeAttributes_written closed rest as fuel _ _ kept (Nat.lt_of_succ_lt_succ room) ?_
    -- another attribute follows the blank that is taken last
    intro more
    obtain ⟨⟨name', v'⟩, as', rfl⟩ := List.exists_cons_of_ne_nil more
    obtain ⟨q', body', -, text'⟩ := writeAttribute_toList (kept _ (List.mem_cons_self ..)) v'
    have split (Y : List Char) : name.toList ++ '=' :: q :: (body ++ q :: ' ' :: Y) =
        (name.toList ++ '=' :: q :: (body ++ [q])) ++ ' ' :: Y := by simp
    rw [List.flatMap_cons, List.append_assoc, (text' _).2, (text' _).1, split, lastTaken_append]
    decide

/-! ## Tags -/

theorem tagEnd_head (closed : Bool) (rest : List Char) :
    ∀ c ∈ (tagEnd closed ++ rest).head?, endsTagName c = true := by
  cases closed <;> rintro c ⟨⟩ <;> decide

/-- A written opening tag is read with its name and its attributes. -/
theorem scanTag_written {name : String} (kept : IsKeptName name.toList) {as : Attributes}
    (keptAs : ∀ a ∈ as, IsKeptName a.1.toList) (closed : Bool) (rest : List Char) :
    scanTag (name.toList ++ (attributesText as ++ (tagEnd closed ++ rest))) =
      .whole (.opening name (putAll [] as) closed) rest := by
  have inside : ∀ c ∈ name.toList, (!endsTagName c) = true := fun c hc => by
    rw [(isWordChar_of_isKeptChar (kept.chars c hc)).inElement]
    rfl
  -- the name ends at the blank before an attribute, or at the end of the tag
  have front : as = [] ∨ ∃ Y, attributesText as ++ (tagEnd closed ++ rest) = ' ' :: Y ∧
      skipGaps (attributesText as ++ (tagEnd closed ++ rest)) = Y := by
    cases as with
    | nil => exact .inl rfl
    | cons a as =>
      obtain ⟨q, body, -, text⟩ := writeAttribute_toList (keptAs _ (List.mem_cons_self ..)) a.2
      right
      rw [attributesText, List.flatMap_cons, List.append_assoc]
      exact ⟨_, (text _).1, (text _).2⟩
  have stop : ∀ c ∈ (attributesText as ++ (tagEnd closed ++ rest)).head?,
      (!endsTagName c) = false := by
    rcases front with rfl | ⟨Y, text, -⟩
    · intro c hc
      rw [tagEnd_head closed rest c hc]
      rfl
    · rw [text]
      rintro c ⟨⟩
      rfl
  have before (last : Char) : as ≠ [] → mayPrecede (lastTaken last
      (attributesText as ++ (tagEnd closed ++ rest))
      (skipGaps (attributesText as ++ (tagEnd closed ++ rest)))) = true := by
    intro more
    obtain ⟨Y, text, gap⟩ := front.resolve_left more
    rw [gap, text]
    have taken := lastTaken_append last ' ' [] Y
    rw [List.nil_append] at taken
    rw [taken]
    decide
  -- each attribute takes a character at least, so there is fuel for all of them
  have room : as.length <
      (skipGaps (attributesText as ++ (tagEnd closed ++ rest))).length + 1 := by
    rcases front with rfl | ⟨Y, text, gap⟩
    · exact Nat.succ_pos _
    · have long := congrArg List.length text
      have := length_attributesText as
      have : 0 < (tagEnd closed).length := by cases closed <;> decide
      rw [List.length_append, List.length_append, List.length_cons] at long
      rw [gap]
      omega
  obtain ⟨taken, left⟩ := Text.takeWhile_append_stop inside stop
  unfold scanTag
  dsimp only
  rw [taken, left, takeAttributes_written closed rest as _ _ [] keptAs room (before _),
    String.ofList_toList, lower_of_isKeptChar kept.chars]
  cases closed <;> rfl

theorem afterClose_written {s : List Char} (h : '>' ∉ s) (rest : List Char) :
    (s ++ '>' :: rest).takeWhile (· ≠ '>') = s ∧ afterClose (s ++ '>' :: rest) = some rest := by
  have inside : ∀ c ∈ s, decide (c ≠ '>') = true := fun c hc =>
    decide_eq_true fun same => h (same ▸ hc)
  have stop : ∀ c ∈ ('>' :: rest).head?, decide (c ≠ '>') = false := by
    rintro c ⟨⟩
    rfl
  obtain ⟨taken, left⟩ := Text.takeWhile_append_stop inside stop
  refine ⟨taken, ?_⟩
  unfold afterClose
  rw [left]

theorem scanEnd_written {name : String} (h : keepsElement name = true) (rest : List Char) :
    scanEnd (name.toList ++ '>' :: rest) = some ([.closing name], rest) := by
  obtain ⟨kept, first⟩ := isKeptName_of_keepsElement h
  have word (c : Char) (hc : c ∈ name.toList) := isWordChar_of_isKeptChar (kept.chars c hc)
  have inside : ∀ c ∈ name.toList, isEndNameChar c = true := fun c hc => (word c hc).inClosing
  have stop : ∀ c ∈ ('>' :: rest).head?, isEndNameChar c = false := by
    rintro c ⟨⟩
    decide
  obtain ⟨taken, left⟩ := Text.takeWhile_append_stop inside stop
  have noBracket : '>' ∉ name.toList := fun hc =>
    (not_isNameEnd (word '>' hc).inAttribute).2.2 rfl
  have lower := lower_of_isKeptChar kept.chars
  obtain ⟨c, cs, hn⟩ := List.exists_cons_of_ne_nil kept.filled
  have alpha : c.isAlpha = true := isAlpha_of_isLower (first c (by rw [hn]; rfl))
  have solid : ¬ Text.isBlank c = true := by
    rw [(not_isNameEnd (word c (hn ▸ List.mem_cons_self ..)).inAttribute).1]
    exact Bool.false_ne_true
  have inner : (name.toList ++ '>' :: rest).dropWhile Text.isBlank =
      name.toList ++ '>' :: rest := by
    rw [hn, List.cons_append, List.dropWhile_cons_of_neg solid]
  have closes : ('>' :: rest).dropWhile Text.isBlank = '>' :: rest :=
    List.dropWhile_cons_of_neg (by decide)
  unfold scanEnd
  rw [(afterClose_written noBracket rest).2, Option.bind_eq_bind, Option.bind_some]
  dsimp only
  rw [inner, taken, left, closes, hn]
  simp only [if_pos alpha]
  rw [← hn, String.ofList_toList, lower]

/-! ## Turns -/

section

variable (last : Bool) (rest : List Char)

theorem turn_opening {name : String} (h : keepsElement name = true) {as : Attributes}
    (keptAs : ∀ a ∈ as, IsKeptName a.1.toList) (closed : Bool) :
    turn last '<' (name.toList ++ (attributesText as ++ (tagEnd closed ++ rest))) =
      .ok (.found [.opening name (putAll [] as) closed] rest last none) := by
  obtain ⟨kept, first⟩ := isKeptName_of_keepsElement h
  have scanned := scanTag_written kept keptAs closed rest
  have notRaw : name ∉ rawElements := fun raw => by
    have safe := of_decide_eq_true (Bool.and_eq_true_iff.1 h).1
    exact safe (List.subset_def.1 (by decide : rawElements ⊆ unsafeElements) raw)
  obtain ⟨c, cs, hn⟩ := List.exists_cons_of_ne_nil kept.filled
  have alpha : c.isAlpha = true := isAlpha_of_isLower (first c (by rw [hn]; rfl))
  rw [hn, List.cons_append] at scanned ⊢
  have tag : turnAtAngle last (c :: (cs ++ (attributesText as ++ (tagEnd closed ++ rest)))) =
      .ok (turnAtTag last (c :: (cs ++ (attributesText as ++ (tagEnd closed ++ rest))))) := by
    unfold turnAtAngle
    split
    · rename_i same
      rw [(List.cons.inj same).1] at alpha
      exact absurd alpha (by decide)
    · rename_i same
      rw [(List.cons.inj same).1] at alpha
      exact absurd alpha (by decide)
    · rename_i same
      rw [(List.cons.inj same).1] at alpha
      exact absurd alpha (by decide)
    · rename_i same
      rw [← (List.cons.inj same).1, if_pos alpha]
    · rename_i same
      cases same
  unfold turn
  rw [if_pos rfl, tag]
  unfold turnAtTag
  rw [scanned]
  dsimp only
  rw [decide_eq_false notRaw, Bool.and_false, if_neg Bool.false_ne_true]

theorem turn_closing {name : String} (h : keepsElement name = true) :
    turn last '<' ('/' :: (name.toList ++ '>' :: rest)) =
      .ok (.found [.closing name] rest last none) := by
  show Except.ok (Turn.orUnfinished last _ (scanEnd (name.toList ++ '>' :: rest))) = _
  rw [scanEnd_written h]
  rfl

theorem turn_declaration {cs : List Char} {t : Token}
    (h : scanDeclaration cs = .ok (some (t, rest))) :
    turn last '<' ('!' :: cs) = .ok (.found [t] rest last none) := by
  have step : turn last '<' ('!' :: cs) = (scanDeclaration cs).map fun found =>
      .orUnfinished last ('<' :: '!' :: cs) (found.map fun p => ([p.1], p.2)) := rfl
  rw [step, h]
  rfl

theorem turn_comment {s : List Char} (free : isFree closesComment s = true) :
    turn last '<' ('!' :: '-' :: '-' :: (s ++ ("-->".toList ++ rest))) =
      .ok (.found [.comment s] rest last none) := by
  refine turn_declaration last rest ?_
  have step (body : List Char) : scanDeclaration ('-' :: '-' :: body) =
      .ok ((untilClose closesComment body).map fun p => (.comment p.1, p.2)) := rfl
  rw [step, untilClose_written isEndMark_comment rest free]
  rfl

theorem turn_instruction {s : List Char} (h : '>' ∉ s) :
    turn last '<' ('?' :: (s ++ '>' :: rest)) = .ok (.found [.instruction s] rest last none) := by
  obtain ⟨taken, found⟩ := afterClose_written h rest
  show Except.ok (Turn.orUnfinished last _ ((scanInstruction (s ++ '>' :: rest)).map _)) = _
  unfold scanInstruction
  rw [found, taken]
  rfl

theorem turn_doctype {s : List Char} (h : '>' ∉ s) :
    turn last '<' ('!' :: ("DOCTYPE ".toList ++ (s ++ '>' :: rest))) =
      .ok (.found [.doctype s] rest last none) := by
  have noBracket : '>' ∉ "DOCTYPE ".toList ++ s := fun hs =>
    (List.mem_append.1 hs).elim (by decide) h
  obtain ⟨taken, found⟩ := afterClose_written noBracket rest
  have kind : Text.lower (String.ofList (("DOCTYPE ".toList ++ (s ++ '>' :: rest)).take 7)) =
      "doctype" := by
    show Text.lower "DOCTYPE" = "doctype"
    decide
  refine turn_declaration last rest ?_
  show Except.ok ((afterClose ("DOCTYPE ".toList ++ (s ++ '>' :: rest))).map _) = _
  rw [List.append_assoc] at found taken
  rw [found, Option.map_some]
  dsimp only
  rw [if_pos kind, taken]
  rfl

theorem scanSection_written {s : List Char} (free : isFree closesSection s = true) :
    scanSection ("CDATA[".toList ++ (s ++ ("]]>".toList ++ rest))) =
      .ok (some (.section s, rest)) := by
  have whole : isFree closesSection ("CDATA[".toList ++ s) = true := free
  have found := untilClose_written isEndMark_section rest whole
  rw [List.append_assoc] at found
  have word (X : List Char) :
      ("CDATA[".toList ++ X).takeWhile isDeclarationChar = "CDATA".toList := rfl
  have blanks (X : List Char) :
      (("CDATA[".toList ++ X).dropWhile isDeclarationChar).takeWhile Text.isBlank = [] := rfl
  have long (X : List Char) :
      "CDATA".toList.length + ([] : List Char).length ≠ ("CDATA[".toList ++ X).length := by
    rw [List.length_append]
    show 5 + 0 ≠ 6 + X.length
    omega
  have name : Text.lower (String.ofList "CDATA".toList) ∈ sectionNames := by decide
  have head : Text.lower (String.ofList (("CDATA[".toList ++ s).take 6)) = "cdata[" := by
    show Text.lower "CDATA[" = "cdata["
    decide
  unfold scanSection
  split
  · rename_i same
    cases same
  · rename_i c tail same
    obtain rfl : 'C' = c := (List.cons.inj same).1
    rw [if_neg (by decide)]
    dsimp only
    rw [word, blanks, if_neg (long _), if_pos (by rw [decide_eq_true name]; rfl), if_pos name,
      found]
    dsimp only
    rw [if_pos head]
    rfl

theorem turn_section {s : List Char} (free : isFree closesSection s = true) :
    turn last '<' ('!' :: '[' :: ("CDATA[".toList ++ (s ++ ("]]>".toList ++ rest)))) =
      .ok (.found [.section s] rest last none) := by
  have step (body : List Char) : scanDeclaration ('[' :: body) = scanSection body := rfl
  exact turn_declaration last rest ((step _).trans (scanSection_written rest free))

theorem scanReference_written {name : List Char} {c : Char} (h : IsReference name c) :
    scanReference (name ++ ';' :: rest) = some ([c], rest) := by
  have inside : ∀ d ∈ name, scanReference.isDeclarationName d = true := fun d hd => by
    simp [scanReference.isDeclarationName, Char.isAlphanum, h.letters d hd]
  have stop : ∀ d ∈ (';' :: rest).head?, scanReference.isDeclarationName d = false := by
    rintro d ⟨⟩
    decide
  obtain ⟨taken, left⟩ := Text.takeWhile_append_stop inside stop
  obtain ⟨d, ds, hn⟩ := List.exists_cons_of_ne_nil h.filled
  have alpha := h.letters d (hn ▸ List.mem_cons_self ..)
  have means := h.means
  subst hn
  rw [List.cons_append] at taken left ⊢
  unfold scanReference
  split
  · rename_i same
    rw [(List.cons.inj same).1] at alpha
    exact absurd alpha (by decide)
  · rename_i same
    cases same
    rw [alpha]
    dsimp only
    rw [taken, left]
    dsimp only
    rw [means]
    rfl
  · rename_i same
    cases same

theorem turn_reference {name : List Char} {c : Char} (h : IsReference name c) :
    turn last '&' (name ++ ';' :: rest) = .ok (.found [.text [c]] rest last none) := by
  show Except.ok (turnAtReference last (name ++ ';' :: rest)) = _
  unfold turnAtReference
  rw [scanReference_written rest h]

theorem turn_plain {c : Char} (h : isMark c = false) :
    turn last c rest = .ok (.found [.text (c :: rest.takeWhile (!isMark ·))]
      (rest.dropWhile (!isMark ·)) last none) := by
  obtain ⟨opening, ampersand⟩ := Bool.or_eq_false_iff.1 h
  unfold turn
  rw [if_neg (of_decide_eq_false opening), if_neg (of_decide_eq_false ampersand)]

end

end ProfileReadme.Markup
