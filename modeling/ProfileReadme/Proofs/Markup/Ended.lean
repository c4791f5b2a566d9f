/-
Where the pieces of markup end. The text of a comment or a marked section holds no end mark of its
kind, and the text of a document type or an instruction no closing bracket. So a piece that is
written with its end mark is read with the text that it was written with. A tag names no attribute
twice.
-/
import ProfileReadme.Markup.Node
import ProfileReadme.Proofs.Outcome
import Mathlib.Data.List.TakeWhile

namespace ProfileReadme.Markup

/-! ## Stretched marks -/

theorem stretched_append {ms t r : List Char} (h : stretched ms t = some r) (x : List Char) :
    stretched ms (t ++ x) = some (r ++ x) := by
  induction ms generalizing t with
  | nil =>
    cases h
    rfl
  | cons m ms ih =>
    unfold stretched at h ⊢
    split at h
    · rename_i c rest found
      rw [List.dropWhile_append, found]
      split at h
      · rename_i same
        exact (if_pos same).trans (ih h)
      · cases h
    · cases h

theorem mem_of_stretched {ms t r : List Char} (h : stretched ms t = some r) : ∀ m ∈ ms, m ∈ t := by
  induction ms generalizing t with
  | nil => exact fun m hm => absurd hm List.not_mem_nil
  | cons m ms ih =>
    unfold stretched at h
    split at h
    · rename_i c rest found
      have sub : ∀ d ∈ c :: rest, d ∈ t := fun d hd =>
        (List.dropWhile_suffix _).subset (found ▸ hd)
      split at h
      · rename_i same
        rintro d (_ | ⟨_, hd⟩)
        · exact sub _ (same ▸ List.mem_cons_self ..)
        · exact sub d (List.mem_cons_of_mem _ (ih h d hd))
      · cases h
    · cases h

/-- A mark that is not in a text does not arise when something else follows it. -/
theorem stretched_apart {m : Char} {ms t y : List Char} {x : Char}
    (h : stretched (m :: ms) t = none) (solid : Text.isBlank x = false)
    (start : x = m → stretched ms y = none)
    (later : ∀ t', stretched ms t' = none → stretched ms (t' ++ x :: y) = none) :
    stretched (m :: ms) (t ++ x :: y) = none := by
  unfold stretched at h ⊢
  rw [List.dropWhile_append]
  split at h
  · rename_i c rest found
    rw [found]
    show (if c = m then _ else _) = _
    split at h
    · rename_i same
      rw [if_pos same]
      exact later rest h
    · rename_i other
      exact if_neg other
  · rename_i none
    rw [none]
    rw [List.dropWhile_cons_of_neg (by rw [solid]; exact Bool.false_ne_true)]
    show (if x = m then _ else _) = _
    split
    · rename_i same
      exact start same
    · rfl

theorem stretched_last_apart {m x : Char} {t : List Char} (h : stretched [m] t = none)
    (solid : Text.isBlank x = false) (other : x ≠ m) (y : List Char) :
    stretched [m] (t ++ x :: y) = none :=
  stretched_apart h solid (fun same => absurd same other) fun _ never => by cases never

/-! ## End marks -/

/-- Whether no end mark stands in a text. -/
def isFree (closes : List Char → Option (List Char)) : List Char → Bool
  | [] => true
  | c :: cs => (closes (c :: cs)).isNone && isFree closes cs

/-- A way to end a piece, and the end mark that is written for it. -/
structure IsEndMark (closes : List Char → Option (List Char)) (mark : List Char) : Prop where
  none_nil : closes [] = none
  /-- An end mark stays one whatever follows. -/
  grows : ∀ {t r}, closes t = some r → ∀ x, closes (t ++ x) = some (r ++ x)
  bracket : ∀ {t r}, closes t = some r → '>' ∈ t
  ends : ∀ rest, closes (mark ++ rest) = some rest
  /-- No text becomes the start of an end mark by what is written after it. -/
  apart : ∀ {c t}, closes (c :: t) = none → ∀ rest, closes (c :: (t ++ (mark ++ rest))) = none

theorem isEndMark_comment : IsEndMark closesComment "-->".toList := by
  refine ⟨rfl, ?_, ?_, fun rest => rfl, ?_⟩
  · intro t r h x
    unfold closesComment at h
    split at h
    · exact stretched_append h x
    · cases h
  · intro t r h
    unfold closesComment at h
    split at h
    · exact List.mem_cons_of_mem _ (List.mem_cons_of_mem _ (mem_of_stretched h _ (by simp)))
    · cases h
  · -- a dash that ends the text has a third one behind it, and no bracket
    intro c t h rest
    by_cases dash : c = '-'
    · subst dash
      rcases t with _ | ⟨d, t⟩
      · rfl
      · by_cases second : d = '-'
        · subst second
          exact stretched_last_apart h (by decide) (by decide) _
        · show closesComment ('-' :: d :: _) = none
          unfold closesComment
          split
          · rename_i same
            exact absurd (List.cons.inj (List.cons.inj same).2).1 second
          · rfl
    · unfold closesComment
      split
      · rename_i same
        exact absurd (List.cons.inj same).1 dash
      · rfl

theorem isEndMark_section : IsEndMark closesSection "]]>".toList := by
  refine ⟨rfl, ?_, ?_, fun rest => rfl, ?_⟩
  · intro t r h x
    unfold closesSection at h
    split at h
    · exact stretched_append h x
    · cases h
  · intro t r h
    unfold closesSection at h
    split at h
    · exact List.mem_cons_of_mem _ (mem_of_stretched h _ (by simp))
    · cases h
  · intro c t h rest
    by_cases bracket : c = ']'
    · subst bracket
      refine stretched_apart (x := ']') h (by decide) (fun _ => rfl) fun t' h' => ?_
      exact stretched_last_apart h' (by decide) (by decide) _
    · unfold closesSection
      split
      · rename_i same
        exact absurd (List.cons.inj same).1 bracket
      · rfl

section

variable {closes : List Char → Option (List Char)} {mark : List Char}

theorem isFree_cons {c : Char} {s : List Char} (h : isFree closes (c :: s) = true) :
    closes (c :: s) = none ∧ isFree closes s = true := by
  unfold isFree at h
  rwa [Bool.and_eq_true, Option.isNone_iff_eq_none] at h

/-- A piece is read up to the first end mark, so none stands in it. -/
theorem isFree_of_untilClose
    (grows : ∀ {t r}, closes t = some r → ∀ x, closes (t ++ x) = some (r ++ x)) :
    ∀ {cs s rest : List Char}, untilClose closes cs = some (s, rest) →
      isFree closes s = true ∧ ∃ more, cs = s ++ more
  | c :: cs, s, rest, h => by
    unfold untilClose at h
    split at h
    · cases h
      exact ⟨rfl, _, rfl⟩
    · rename_i notYet
      obtain ⟨⟨s, rest⟩, found, same⟩ := Option.map_eq_some_iff.1 h
      cases same
      obtain ⟨free, more, rfl⟩ := isFree_of_untilClose grows found
      refine ⟨?_, more, rfl⟩
      unfold isFree
      -- an end mark in what was taken would have ended it
      cases early : closes (c :: s) with
      | none => rw [free]; rfl
      | some r =>
        have := grows early more
        rw [List.cons_append, notYet] at this
        cases this

/-- A piece that is free of end marks and written with one is read as it is. -/
theorem untilClose_written (h : IsEndMark closes mark) (rest : List Char) :
    ∀ {s : List Char}, isFree closes s = true →
      untilClose closes (s ++ (mark ++ rest)) = some (s, rest)
  | [], _ => by
    have ends := h.ends rest
    cases whole : mark ++ rest with
    | nil =>
      rw [whole, h.none_nil] at ends
      cases ends
    | cons c cs =>
      rw [whole] at ends
      show untilClose closes (c :: cs) = _
      unfold untilClose
      rw [ends]
  | c :: s, free => by
    obtain ⟨notYet, free⟩ := isFree_cons free
    rw [List.cons_append]
    unfold untilClose
    rw [h.apart notYet rest, untilClose_written h rest free]
    rfl

theorem isFree_append {t : List Char} : ∀ {s : List Char}, isFree closes (s ++ t) = true →
    isFree closes t = true
  | [], h => h
  | _ :: _, h => isFree_append (isFree_cons h).2

/-- A text without a closing bracket holds no end mark. -/
theorem isFree_of_not_mem (bracket : ∀ {t r}, closes t = some r → '>' ∈ t) :
    ∀ {s : List Char}, '>' ∉ s → isFree closes s = true
  | [], _ => rfl
  | c :: s, h => by
    unfold isFree
    rw [isFree_of_not_mem bracket fun hs => h (List.mem_cons_of_mem _ hs), Bool.and_true,
      Option.isNone_iff_eq_none, Option.eq_none_iff_forall_ne_some]
    exact fun r found => h (bracket found)

end

theorem closesCondition_grows {t r : List Char} (h : closesCondition t = some r)
    (x : List Char) : closesCondition (t ++ x) = some (r ++ x) := by
  unfold closesCondition at h
  split at h
  · exact stretched_append h x
  · cases h

/-- A text without the end of a condition is without the end of a section, which is longer. -/
theorem isFree_section_of_condition : ∀ {s : List Char}, isFree closesCondition s = true →
    isFree closesSection s = true
  | [], _ => rfl
  | c :: s, h => by
    have tail := (isFree_cons h).2
    unfold isFree
    rw [isFree_section_of_condition tail, Bool.and_true, Option.isNone_iff_eq_none,
      Option.eq_none_iff_forall_ne_some]
    intro r found
    unfold closesSection at found
    split at found
    · rename_i cs same
      cases same
      unfold stretched at found
      split at found
      · rename_i d rest dropped
        split at found
        · -- the second bracket, with what follows it, ends a condition
          rename_i second
          subst second
          obtain ⟨front, whole⟩ := List.dropWhile_suffix Text.isBlank (l := s)
          rw [dropped] at whole
          rw [← whole] at tail
          have none := (isFree_cons (isFree_append tail)).1
          exact absurd (none.symm.trans found) (by simp)
        · cases found
      · cases found
    · cases found

/-! ## Tokens -/

theorem mem_names_putAttribute {name value n : String} : ∀ {as : Attributes},
    n ∈ (putAttribute name value as).map Prod.fst → n = name ∨ n ∈ as.map Prod.fst
  | [], h => .inl (List.mem_singleton.1 h)
  | (m, v) :: as, h => by
    unfold putAttribute at h
    split at h
    · exact .inr h
    · rcases List.mem_cons.1 h with h | h
      · exact .inr (h ▸ List.mem_cons_self ..)
      · exact (mem_names_putAttribute h).imp_right (List.mem_cons_of_mem _)

theorem nodup_putAttribute (name value : String) : ∀ {as : Attributes},
    (as.map Prod.fst).Nodup → ((putAttribute name value as).map Prod.fst).Nodup
  | [], _ => by simp [putAttribute]
  | (m, v) :: as, h => by
    unfold putAttribute
    split
    · exact h
    · rename_i other
      obtain ⟨new, rest⟩ := List.nodup_cons.1 h
      exact List.nodup_cons.2 ⟨fun mem => (mem_names_putAttribute mem).elim other new,
        nodup_putAttribute name value rest⟩

/-- An attribute that comes twice is put where it came first. -/
theorem nodup_takeAttributes : ∀ (fuel : Nat) (last : Char) {done : Attributes} (cs : List Char),
    (done.map Prod.fst).Nodup → ((takeAttributes fuel last done cs).1.map Prod.fst).Nodup
  | 0, _, _, _, h => h
  | fuel + 1, last, done, [], h => h
  | fuel + 1, last, done, c :: cs, h => by
    unfold takeAttributes
    dsimp only
    split
    · exact nodup_takeAttributes fuel _ _ (nodup_putAttribute _ _ h)
    · exact h

/-- Whether the text of a piece stays within it when the piece is written, and a tag names no
attribute twice. -/
def Token.isNeat : Token → Bool
  | .opening _ attributes _ => decide (attributes.map Prod.fst).Nodup
  | .comment s => isFree closesComment s
  | .section s => isFree closesSection s
  | .doctype s | .instruction s => !s.contains '>'
  | _ => true

theorem not_mem_takeWhile (cs : List Char) : '>' ∉ cs.takeWhile (· ≠ '>') := by
  intro h
  have := List.mem_takeWhile_imp h
  exact absurd this (by decide)

theorem bogus_isNeat (cs : List Char) : (Token.comment (cs.takeWhile (· ≠ '>'))).isNeat = true :=
  isFree_of_not_mem isEndMark_comment.bracket (not_mem_takeWhile cs)

/-- What looks like a closing tag and has no name is a comment up to its bracket. -/
theorem scanEnd_isNeat {cs rest : List Char} {ts : List Token} (h : scanEnd cs = some (ts, rest)) :
    ∀ t ∈ ts, t.isNeat = true := by
  unfold scanEnd at h
  rw [Option.bind_eq_bind, Option.bind_eq_some_iff] at h
  obtain ⟨_, -, h⟩ := h
  dsimp only at h
  split at h
  · cases h
    simp [Token.isNeat]
  · split at h
    · split at h
      · obtain ⟨_, -, h⟩ := Option.bind_eq_some_iff.1 h
        cases h
        simp [Token.isNeat]
      · split at h
        · cases h
          simp
        · obtain ⟨_, -, h⟩ := Option.bind_eq_some_iff.1 h
          cases h
          intro t ht
          rw [List.mem_singleton.1 ht]
          exact bogus_isNeat _
    · cases h

theorem scanSection_isNeat {cs rest : List Char} {t : Token}
    (h : scanSection cs = .ok (some (t, rest))) : t.isNeat = true := by
  unfold scanSection at h
  split at h
  · cases h
  · dsimp only at h
    split at h
    · cases h
    · split at h
      · cases h
      · split at h
        · split at h
          · cases h
          · rename_i s rest' found
            have free : isFree closesSection s = true := by
              split at found
              · exact (isFree_of_untilClose isEndMark_section.grows found).1
              · exact isFree_section_of_condition
                  (isFree_of_untilClose closesCondition_grows found).1
            have same := congrArg Prod.fst (Option.some.inj (Except.ok.inj h))
            rw [← List.take_append_drop 6 s] at free
            split at same
            · obtain rfl : Token.section (s.drop 6) = t := same
              exact isFree_append free
            · obtain rfl : Token.declaration s = t := same
              rfl
        · cases h

theorem scanDeclaration_isNeat {cs rest : List Char} {t : Token}
    (h : scanDeclaration cs = .ok (some (t, rest))) : t.isNeat = true := by
  unfold scanDeclaration at h
  split at h
  · obtain ⟨⟨s, rest⟩, found, same⟩ := Option.map_eq_some_iff.1 (Except.ok.inj h)
    cases same
    exact (isFree_of_untilClose isEndMark_comment.grows found).1
  · exact scanSection_isNeat h
  · obtain ⟨rest, -, same⟩ := Option.map_eq_some_iff.1 (Except.ok.inj h)
    cases same
    split
    · have none : '>' ∉ (cs.takeWhile (· ≠ '>')).drop 8 := fun hs =>
        not_mem_takeWhile cs (List.mem_of_mem_drop hs)
      simpa [Token.isNeat] using none
    · exact bogus_isNeat cs

theorem scanInstruction_isNeat {cs rest : List Char} {t : Token}
    (h : scanInstruction cs = some (t, rest)) : t.isNeat = true := by
  obtain ⟨_, -, same⟩ := Option.map_eq_some_iff.1 h
  cases same
  simpa [Token.isNeat] using not_mem_takeWhile cs

/-! ## Scans -/

/-- The tokens that a step of a scan finds. -/
def Turn.tokens : Turn → List Token
  | .found tokens .. => tokens
  | .finished tokens => tokens

theorem unfinished_isNeat (last : Bool) (cs : List Char) :
    ∀ t ∈ (Turn.unfinished last cs).tokens, t.isNeat = true := by
  unfold Turn.unfinished
  split <;> simp [Turn.tokens, Token.isNeat]

theorem orUnfinished_isNeat (last : Bool) (cs : List Char)
    {found : Option (List Token × List Char)}
    (h : ∀ ts rest, found = some (ts, rest) → ∀ t ∈ ts, t.isNeat = true) :
    ∀ t ∈ (Turn.orUnfinished last cs found).tokens, t.isNeat = true := by
  unfold Turn.orUnfinished
  split
  · exact h _ _ rfl
  · exact unfinished_isNeat last cs

theorem scanTag_isNeat {cs rest : List Char} {t : Token} (h : scanTag cs = .whole t rest) :
    t.isNeat = true := by
  unfold scanTag at h
  dsimp only at h
  split at h
  · cases h
  · cases h
    exact decide_eq_true (nodup_takeAttributes _ _ _ List.nodup_nil)
  · cases h
    exact decide_eq_true (nodup_takeAttributes _ _ _ List.nodup_nil)
  · split at h <;> cases h

theorem turnAtTag_isNeat (last : Bool) (cs : List Char) :
    ∀ t ∈ (turnAtTag last cs).tokens, t.isNeat = true := by
  unfold turnAtTag
  split
  · rename_i tag attributes closed rest found
    intro t ht
    rw [List.mem_singleton.1 ht]
    exact scanTag_isNeat found
  · rename_i token rest _ found
    intro t ht
    rw [List.mem_singleton.1 ht]
    exact scanTag_isNeat found
  · simp [Turn.tokens, Token.isNeat]
  · exact unfinished_isNeat _ _

theorem stop_isNeat (last : Bool) (cs : List Char) :
    ∀ t ∈ (Turn.stop last cs).tokens, t.isNeat = true := by
  unfold Turn.stop
  split <;> simp [Turn.tokens, Token.isNeat]

theorem turnAtReference_isNeat (last : Bool) (cs : List Char) :
    ∀ t ∈ (turnAtReference last cs).tokens, t.isNeat = true := by
  have text (ts : List (List Char)) : ∀ t ∈ ts.map Token.text, t.isNeat = true := by
    simp [Token.isNeat]
  unfold turnAtReference
  split
  · exact text [_]
  · split
    · split
      · split
        · exact text [_, _]
        · exact text [_]
      · exact stop_isNeat _ _
    · split
      · split
        · exact text [_]
        · exact stop_isNeat _ _
      · exact text [_]
    · exact stop_isNeat _ _

theorem turn_isNeat {last : Bool} {c : Char} {cs : List Char} {found : Turn}
    (h : turn last c cs = .ok found) : ∀ t ∈ found.tokens, t.isNeat = true := by
  unfold turn at h
  split at h
  · unfold turnAtAngle at h
    dsimp only at h
    split at h
    · cases h
      exact orUnfinished_isNeat _ _ fun ts rest found => scanEnd_isNeat found
    · rename_i rest
      cases hd : scanDeclaration rest with
      | error rejection =>
        rw [hd] at h
        cases h
      | ok piece =>
        rw [hd] at h
        cases h
        refine orUnfinished_isNeat _ _ fun ts rest found => ?_
        obtain ⟨⟨t, rest⟩, rfl, same⟩ := Option.map_eq_some_iff.1 found
        cases same
        intro t' ht
        rw [List.mem_singleton.1 ht]
        exact scanDeclaration_isNeat hd
    · cases h
      refine orUnfinished_isNeat _ _ fun ts rest found => ?_
      obtain ⟨⟨t, rest⟩, piece, same⟩ := Option.map_eq_some_iff.1 found
      cases same
      intro t' ht
      rw [List.mem_singleton.1 ht]
      exact scanInstruction_isNeat piece
    · cases h
      split
      · exact turnAtTag_isNeat _ _
      · simp [Turn.tokens, Token.isNeat]
    · cases h
      exact stop_isNeat _ _
  · split at h
    · cases h
      exact turnAtReference_isNeat _ _
    · cases h
      simp [Turn.tokens, Token.isNeat]

/-- Every token of a scan is neat. -/
theorem scan_isNeat : ∀ {fuel : Nat} {last : Bool} {raw : Option String} {cs : List Char}
    {ts : List Token}, scan fuel last raw cs = .ok ts → ∀ t ∈ ts, t.isNeat = true
  | 0, _, _, _, _, h => by cases h; simp
  | _ + 1, _, none, [], _, h => by cases h; simp
  | _ + 1, _, some _, [], _, h => by cases h; simp
  | fuel + 1, last, some name, c :: cs, ts, h => by
    unfold scan at h
    split at h
    · obtain ⟨more, hmore, h⟩ := bind_eq_ok h
      cases h
      rintro t (_ | ⟨_, _ | ⟨_, ht⟩⟩)
      · rfl
      · rfl
      · exact scan_isNeat hmore t ht
    · cases h
      simp
  | fuel + 1, last, none, c :: cs, ts, h => by
    obtain ⟨found, hfound, h⟩ := bind_eq_ok h
    have first := turn_isNeat hfound
    cases found with
    | finished tokens =>
      cases h
      exact first
    | found tokens rest last raw =>
      obtain ⟨more, hmore, h⟩ := bind_eq_ok h
      cases h
      intro t ht
      exact (List.mem_append.1 ht).elim (first t) (scan_isNeat hmore t)

theorem tokens_isNeat {s : String} {ts : List Token} (h : tokens s = .ok ts) :
    ∀ t ∈ ts, t.isNeat = true := scan_isNeat h

end ProfileReadme.Markup
