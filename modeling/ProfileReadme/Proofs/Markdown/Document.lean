/-
The readme as a whole: its page is the paragraphs of the output, and of the page it drops the
blanks at both ends. The blanks at the start are dropped although nothing but the end needs it: a
readme without attribution whose first section starts with an indentation loses it.
-/
import ProfileReadme.Markdown.Document
import ProfileReadme.Proofs.Text.Join
import ProfileReadme.Proofs.Text.Trimming

namespace ProfileReadme

/-! ## Line ends -/

namespace LineEnding

/-- A character of a text with single line feeds, written with this line end. -/
def written (e : LineEnding) (c : Char) : List Char :=
  match e with
  | .lf => [c]
  | .crlf => if c = '\n' then ['\r', '\n'] else [c]

theorem normalize_toList (e : LineEnding) (s : String) :
    (e.normalize s).toList = (unify s.toList).flatMap e.written := by
  cases e with
  | lf =>
    show (String.ofList (unify s.toList)).toList = (unify s.toList).flatMap fun c => [c]
    rw [String.toList_ofList, List.flatMap_singleton']
  | crlf => exact String.toList_ofList

theorem written_ne_nil (e : LineEnding) (c : Char) : e.written c ≠ [] := by
  cases e with
  | lf => exact List.cons_ne_nil _ _
  | crlf =>
    show (if c = '\n' then ['\r', '\n'] else [c]) ≠ []
    split
    · exact List.cons_ne_nil _ _
    · exact List.cons_ne_nil _ _

theorem unify_ne_nil {cs : List Char} (h : cs ≠ []) : unify cs ≠ [] := by
  fun_cases unify cs with
  | case1 => exact absurd rfl h
  | case2 => exact List.cons_ne_nil _ _
  | case3 => exact List.cons_ne_nil _ _
  | case4 => exact List.cons_ne_nil _ _

/-- Texts side by side are unified apart, unless a line break may reach from one to the other. -/
theorem unify_append {cs rest : List Char} (h : ∀ c ∈ rest.head?, c ≠ '\n') :
    unify (cs ++ rest) = unify cs ++ unify rest := by
  fun_induction unify cs with
  | case1 => rfl
  | case2 cs ih => exact congrArg ('\n' :: ·) ih
  | case3 cs alone ih =>
    -- no line feed follows the carriage return in the longer text either
    have ahead : ∀ ds, cs ++ rest = '\n' :: ds → False := by
      intro ds eq
      cases cs with
      | nil =>
        rw [List.nil_append] at eq
        exact h '\n' (by rw [eq]; rfl) rfl
      | cons c cs => exact alone cs (by rw [(List.cons.inj eq).1])
    show unify ('\r' :: (cs ++ rest)) = _
    rw [unify.eq_3 _ ahead, ih]
    rfl
  | case4 c cs apart single ih =>
    show unify (c :: (cs ++ rest)) = _
    rw [unify.eq_4 c _ (fun _ hc _ => single hc) single, ih]
    rfl

/-- A text in front of another one, which starts with no line feed, is not lost on the way. -/
theorem normalize_append_ne (e : LineEnding) {lead : List Char} (some : lead ≠ []) {s t : String}
    (start : ∀ c ∈ t.toList.head?, c ≠ '\n') (h : s.toList = lead ++ t.toList) :
    e.normalize s ≠ e.normalize t := by
  intro same
  have same := congrArg String.toList same
  rw [normalize_toList, normalize_toList, h, unify_append start, List.flatMap_append] at same
  have none : (unify lead).flatMap e.written = [] := List.append_left_eq_self.1 same
  rw [List.flatMap_eq_nil_iff] at none
  obtain ⟨c, hc⟩ := List.exists_mem_of_ne_nil _ (unify_ne_nil some)
  exact e.written_ne_nil c (none c hc)

end LineEnding

/-! ## The page -/

theorem Text.join_append (sep : String) {as bs : List String} (ha : as ≠ []) (hb : bs ≠ []) :
    Text.join sep (as ++ bs) = Text.join sep as ++ sep ++ Text.join sep bs := by
  induction as with
  | nil => exact absurd rfl ha
  | cons a as ih =>
    cases as with
    | nil =>
      obtain ⟨b, bs, rfl⟩ := List.exists_cons_of_ne_nil hb
      rfl
    | cons next as =>
      show a ++ sep ++ Text.join sep ((next :: as) ++ bs) = _
      rw [ih (List.cons_ne_nil _ _)]
      simp only [Text.join, String.append_assoc]

/-- A joined text starts as its first part does, unless that is empty. -/
theorem Text.leading_join_eq_nil_iff (sep : String) {part : String} (h : part ≠ "")
    (parts : List String) :
    Text.leading (Text.join sep (part :: parts)) = [] ↔ Text.leading part = [] := by
  have some : part.toList ≠ [] := fun none => h (String.toList_eq_nil_iff.1 none)
  obtain ⟨c, cs, chars⟩ := List.exists_cons_of_ne_nil some
  have start (rest : List Char) : ((c :: cs ++ rest).takeWhile Text.isBlank) = [] ↔
      Text.isBlank c = false := by
    cases hc : Text.isBlank c <;> simp [hc]
  have alone := start []
  rw [List.append_nil] at alone
  unfold Text.leading
  rw [chars, alone]
  cases parts with
  | nil => rw [Text.join, chars, alone]
  | cons next parts => rw [Text.join_cons_toList, chars, start]

namespace Markdown

/-- The paragraphs of a page: the sections, within the attribution if it is asked for. -/
def pageParts (attribution : Bool) (sections : List String) : List String :=
  (if attribution then [attributionComment] else []) ++ sections
    ++ (if attribution then ["---", attributionFooter] else [])

theorem pageParts_bare (sections : List String) : pageParts false sections = sections :=
  List.append_nil sections

theorem pageParts_attributed (sections : List String) :
    pageParts true sections = attributionComment :: (sections ++ ["---", attributionFooter]) := rfl

theorem sectionLines_eq : ∀ {sections : List String}, sections ≠ [] →
    sectionLines sections = paragraphs sections ++ "\n"
  | [], h => absurd rfl h
  | [s], _ => rfl
  | s :: next :: rest, _ => by
    rw [sectionLines, sectionLines_eq (List.cons_ne_nil next rest)]
    · simp only [paragraphs, Text.join, String.append_assoc]
    · simp

/-- A page is its paragraphs with blank lines between them, and a line break. -/
theorem page_eq (attribution : Bool) (sections : List String) :
    page attribution sections =
      if (pageParts attribution sections).isEmpty then ""
      else paragraphs (pageParts attribution sections) ++ "\n" := by
  cases sections with
  | nil => cases attribution <;> rfl
  | cons s rest =>
    have some : s :: rest ≠ [] := List.cons_ne_nil s rest
    unfold page
    rw [sectionLines_eq some]
    cases attribution with
    | false =>
      rw [pageParts_bare]
      show "" ++ (paragraphs (s :: rest) ++ "\n") ++ "" = paragraphs (s :: rest) ++ "\n"
      rw [String.empty_append, String.append_empty]
    | true =>
      rw [pageParts_attributed]
      have whole : paragraphs (attributionComment :: (s :: rest ++ ["---", attributionFooter])) =
          attributionComment ++ "\n\n" ++
            (paragraphs (s :: rest) ++ "\n\n" ++ ("---" ++ "\n\n" ++ attributionFooter)) := by
        show attributionComment ++ "\n\n" ++ Text.join "\n\n" (s :: rest ++ _) = _
        rw [Text.join_append _ some (List.cons_ne_nil _ _)]
        rfl
      show attributionComment ++ "\n\n" ++ (paragraphs (s :: rest) ++ "\n")
          ++ ("\n" ++ "---\n\n" ++ attributionFooter ++ "\n") =
        paragraphs (attributionComment :: (s :: rest ++ _)) ++ "\n"
      have lines : "\n" ++ "\n" = "\n\n" := rfl
      have rule : "---" ++ "\n\n" = "---\n\n" := rfl
      rw [whole, rule, ← lines]
      simp only [String.append_assoc]

end Markdown

/-! ## The readme -/

namespace Render.Output

open Markdown Text

/-- What there is to say of an output: its paragraphs with blank lines between them. -/
def paragraphed (output : Output) (o : ExportOptions) : String :=
  paragraphs (pageParts o.attribution (output.sectionTexts o))

variable (output : Output) (o : ExportOptions)

theorem readme_eq :
    output.readme o =
      if allBlank (output.paragraphed o) then ""
      else o.lineEnding.normalize (strip (output.paragraphed o) ++ "\n") := by
  have body : strip (page o.attribution (output.sectionTexts o)) =
      strip (output.paragraphed o) := by
    rw [page_eq]
    split
    · rename_i none
      unfold paragraphed
      rw [List.isEmpty_iff.1 none]
      rfl
    · exact strip_line _
  unfold readme
  rw [body]
  refine if_congr ?_ rfl rfl
  rw [String.isEmpty_iff, strip_eq_empty_iff]

/-- Blanks at the start are those of the first section, if it is not behind the attribution. -/
theorem leading_paragraphed :
    leading (output.paragraphed o) = [] ↔
      o.attribution = true ∨ ∀ s ∈ (output.sectionTexts o).head?, leading s = [] := by
  unfold paragraphed
  cases o.attribution with
  | true =>
    rw [pageParts_attributed]
    refine iff_of_true ?_ (.inl rfl)
    have comment : attributionComment ≠ "" := by decide
    exact (leading_join_eq_nil_iff "\n\n" comment
      (output.sectionTexts o ++ ["---", attributionFooter])).2 (by decide)
  | false =>
    rw [pageParts_bare]
    cases texts : output.sectionTexts o with
    | nil => exact iff_of_true rfl (.inr fun s hs => by cases hs)
    | cons s rest =>
      have shown : s ∈ output.sectionTexts o := texts ▸ List.mem_cons_self
      have some : s ≠ "" := by simpa using (List.mem_filter.1 shown).2
      simpa [paragraphs] using leading_join_eq_nil_iff "\n\n" some rest

/-- The readme is what there is to say, trimmed at both ends. So it is that text trimmed at its
end, as it should be, only if the text does not start with a blank or has nothing else: with the
attribution, or if the first section that shows something is not indented. -/
theorem readme_trimmed_iff :
    (output.readme o = if allBlank (output.paragraphed o) then ""
      else o.lineEnding.normalize (strip (output.paragraphed o) ++ "\n")) ∧
    ((output.readme o = if allBlank (output.paragraphed o) then ""
        else o.lineEnding.normalize (stripEnd (output.paragraphed o) ++ "\n")) ↔
      allBlank (output.paragraphed o) = true ∨ o.attribution = true ∨
        ∀ s ∈ (output.sectionTexts o).head?, leading s = []) := by
  refine ⟨output.readme_eq o, ?_⟩
  rw [output.readme_eq o, ← leading_paragraphed]
  cases blank : allBlank (output.paragraphed o) with
  | true => simp only [if_true, true_or]
  | false =>
    simp only [Bool.false_eq_true, if_false, false_or]
    have parts := stripEnd_eq blank
    constructor
    · -- what trimming takes from the start would be missing
      intro same
      by_contra indented
      refine o.lineEnding.normalize_append_ne indented ?_ ?_ same.symm
      · exact strip_line_head blank
      · rw [String.toList_append, String.toList_append, parts, List.append_assoc]
    · intro flush
      rw [flush, List.nil_append] at parts
      rw [String.toList_inj.1 parts]

/-- A section whose first line is indented. -/
def indentedSection : RenderedSection :=
  { id := "a", type := "about", blocks := [.element "x" true (.text { value := "    code" })] }

def indentedOutput : Output :=
  { context := { templateId := "t" }, sections := [indentedSection],
    metadata := { templateId := "t", templateName := "T", templateVersion := "1.0.0" } }

/-- The indentation of the first line is lost, although it does not stand at the end. -/
theorem indented_start_lost :
    indentedOutput.readme {} = "code\n" ∧
      (if allBlank (indentedOutput.paragraphed {}) then ""
        else LineEnding.lf.normalize (stripEnd (indentedOutput.paragraphed {}) ++ "\n")) =
        "    code\n" := by
  decide +kernel

end Render.Output

end ProfileReadme
