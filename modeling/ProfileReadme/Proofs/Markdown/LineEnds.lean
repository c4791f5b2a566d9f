/-
Line ends of the readme. With single line feeds it has no carriage return, and with the longer ends
it is that text with a return before each feed. It is trimmed before its last line is ended, so it
ends with one line break, behind a character that is no blank; and line ends can be changed at any
time without a trace of the earlier ones.
-/
import ProfileReadme.Proofs.Markdown.Document
import ProfileReadme.Proofs.Text.Substitution

namespace ProfileReadme

namespace LineEnding

/-! ## Breaks -/

/-- A line break. -/
def mark (e : LineEnding) : List Char := e.written '\n'

theorem return_not_mem_unify (cs : List Char) : '\r' ∉ unify cs := by
  fun_induction unify cs with
  | case1 => exact List.not_mem_nil
  | case2 cs ih => simpa using ih
  | case3 cs alone ih => simpa using ih
  | case4 c cs apart single ih =>
    rw [List.mem_cons, not_or]
    exact ⟨Ne.symm single, ih⟩

theorem return_not_mem_lf (s : String) : '\r' ∉ (lf.normalize s).toList := by
  rw [normalize_toList]
  exact (List.flatMap_singleton' _).symm ▸ return_not_mem_unify s.toList

theorem crlf_eq_replace (s : String) :
    crlf.normalize s = Text.replace (lf.normalize s) "\n" "\r\n" := by
  rw [← String.toList_inj, Text.replace_char _ _ (q := '\n') rfl, normalize_toList,
    normalize_toList]
  exact congrArg (·.flatMap crlf.written) (List.flatMap_singleton' _).symm

/-- Written with either end, a text of single line feeds is read as it was. -/
theorem unify_written (e : LineEnding) {cs : List Char} (h : '\r' ∉ cs) :
    unify (cs.flatMap e.written) = cs := by
  induction cs with
  | nil => rfl
  | cons c cs ih =>
    rw [List.mem_cons, not_or] at h
    have plain : unify (c :: cs.flatMap e.written) = c :: cs := by
      rw [unify.eq_4 c _ (fun _ same _ => h.1 same.symm) (fun same => h.1 same.symm), ih h.2]
    rw [List.flatMap_cons]
    cases e with
    | lf => exact plain
    | crlf =>
      by_cases feed : c = '\n'
      · subst feed
        exact congrArg ('\n' :: ·) (ih h.2)
      · have single : crlf.written c = [c] := if_neg feed
        rw [single]
        exact plain

theorem normalize_normalize (a b : LineEnding) (s : String) :
    b.normalize (a.normalize s) = b.normalize s := by
  rw [← String.toList_inj, normalize_toList, normalize_toList, normalize_toList,
    unify_written a (return_not_mem_unify s.toList)]

/-! ## Pairs -/

/-- Every return has a feed behind it, and every feed a return before it. -/
structure Paired (cs : List Char) : Prop where
  feedAfter : ∀ front rest, cs = front ++ '\r' :: rest → rest.head? = some '\n'
  returnBefore : ∀ front rest, cs = front ++ '\n' :: rest → front.getLast? = some '\r'

theorem Paired.nil : Paired [] := ⟨by simp, by simp⟩

theorem Paired.cons {c : Char} {cs : List Char} (h : Paired cs) (notReturn : c ≠ '\r')
    (notFeed : c ≠ '\n') : Paired (c :: cs) := by
  constructor
  · rintro (_ | ⟨d, front⟩) rest eq
    · exact absurd (List.cons.inj eq).1 notReturn
    · exact h.feedAfter front rest (List.cons.inj eq).2
  · rintro (_ | ⟨d, front⟩) rest eq
    · exact absurd (List.cons.inj eq).1 notFeed
    · have before := h.returnBefore front rest (List.cons.inj eq).2
      rw [List.getLast?_cons, before]
      rfl

theorem Paired.pair {cs : List Char} (h : Paired cs) : Paired ('\r' :: '\n' :: cs) := by
  constructor
  · rintro (_ | ⟨d, _ | ⟨d', front⟩⟩) rest eq
    · rw [← (List.cons.inj eq).2]
      rfl
    · exact absurd (List.cons.inj (List.cons.inj eq).2).1 (by decide)
    · exact h.feedAfter front rest (List.cons.inj (List.cons.inj eq).2).2
  · rintro (_ | ⟨d, _ | ⟨d', front⟩⟩) rest eq
    · exact absurd (List.cons.inj eq).1 (by decide)
    · rw [← (List.cons.inj eq).1]
      rfl
    · have before := h.returnBefore front rest (List.cons.inj (List.cons.inj eq).2).2
      rw [List.getLast?_cons_cons, List.getLast?_cons, before]
      rfl

theorem paired_written {cs : List Char} (h : '\r' ∉ cs) : Paired (cs.flatMap crlf.written) := by
  induction cs with
  | nil => exact Paired.nil
  | cons c cs ih =>
    rw [List.mem_cons, not_or] at h
    rw [List.flatMap_cons]
    by_cases feed : c = '\n'
    · subst feed
      exact (ih h.2).pair
    · have single : crlf.written c = [c] := if_neg feed
      rw [single]
      exact (ih h.2).cons (Ne.symm h.1) feed

theorem paired_crlf (s : String) : Paired (crlf.normalize s).toList := by
  rw [normalize_toList]
  exact paired_written (return_not_mem_unify s.toList)

/-! ## The last line -/

/-- A trimmed text that is ended with a line feed ends with one break, behind what was its last
character. -/
theorem normalize_line (e : LineEnding) {s : String} (h : Text.allBlank s = false) :
    ∃ front c, (e.normalize (Text.strip s ++ "\n")).toList = front ++ c :: e.mark ∧
      Text.isBlank c = false := by
  have left : (Text.strip s).toList ≠ [] := fun none => by
    rw [(Text.strip_eq_empty_iff s).1 (String.toList_eq_nil_iff.1 none)] at h
    cases h
  obtain ⟨front, c, body⟩ := (List.eq_nil_or_concat' _).resolve_left left
  have trimmed : (Text.strip s).toList = Text.trimWhile Text.isBlank s.toList :=
    String.toList_ofList
  have solid : Text.isBlank c = false := Text.trimWhile_concat_eq (trimmed.symm.trans body)
  have notReturn : c ≠ '\r' := fun same => by rw [same] at solid; exact absurd solid (by decide)
  have notFeed : c ≠ '\n' := fun same => by rw [same] at solid; exact absurd solid (by decide)
  have single : e.written c = [c] := by
    cases e with
    | lf => rfl
    | crlf => exact if_neg notFeed
  -- the last character is no feed, so it joins no break before it
  have lines : unify (front ++ [c] ++ ['\n']) = unify front ++ [c, '\n'] := by
    have start : ∀ d ∈ [c, '\n'].head?, d ≠ '\n' := fun d hd => Option.some.inj hd ▸ notFeed
    rw [List.append_assoc, List.singleton_append, unify_append start,
      unify.eq_4 c _ (fun _ same _ => notReturn same) notReturn]
    rfl
  have feed : "\n".toList = ['\n'] := rfl
  refine ⟨(unify front).flatMap e.written, c, ?_, solid⟩
  rw [normalize_toList, String.toList_append, body, feed, lines, List.flatMap_append,
    List.flatMap_cons, List.flatMap_singleton, single]
  rfl

end LineEnding

/-! ## The readme -/

namespace Render.Output

open LineEnding

/-- The readme in another form. -/
def readmeIn (output : Output) (o : Markdown.ExportOptions) (e : LineEnding) : String :=
  output.readme { o with lineEnding := e }

/-- The text whose line breaks are written in one form or the other. -/
theorem readmeIn_eq (output : Output) (o : Markdown.ExportOptions) (e : LineEnding) :
    output.readmeIn o e = if Text.allBlank (output.paragraphed o) then ""
      else e.normalize (Text.strip (output.paragraphed o) ++ "\n") :=
  output.readme_eq { o with lineEnding := e }

/-- Of one output with the same options but for the line ends: the readme with single feeds has no
carriage return; with the longer ends it is that readme with each feed replaced, so returns and
feeds stand in pairs; with either end it is empty or ends with one break behind a character that is
no blank. And of any text, only the last change of its line ends counts. -/
theorem readme_line_ends (output : Output) (o : Markdown.ExportOptions) :
    '\r' ∉ (output.readmeIn o .lf).toList ∧
    output.readmeIn o .crlf = Text.replace (output.readmeIn o .lf) "\n" "\r\n" ∧
    Paired (output.readmeIn o .crlf).toList ∧
    (∀ e, output.readmeIn o e = "" ∨ ∃ front c,
      (output.readmeIn o e).toList = front ++ c :: e.mark ∧ Text.isBlank c = false) ∧
    ∀ (a b : LineEnding) (s : String), b.normalize (a.normalize s) = b.normalize s := by
  simp only [readmeIn_eq]
  cases blank : Text.allBlank (output.paragraphed o) with
  | true =>
    have same : "" = Text.replace "" "\n" "\r\n" := by decide
    exact ⟨List.not_mem_nil, same, Paired.nil, fun _ => .inl rfl, normalize_normalize⟩
  | false =>
    exact ⟨return_not_mem_lf _, crlf_eq_replace _, paired_crlf _,
      fun e => .inr (normalize_line e blank), normalize_normalize⟩

end Render.Output

end ProfileReadme
