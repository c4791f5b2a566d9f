/-
Where the alternative texts of embedded images end. A reader of markdown takes such a text up to
the first bracket that closes none of its own, and leaves out of the count what a backslash
escapes. The brackets of a text get a backslash each, but its backslashes get none: so a bracket is
escaped exactly if an even number of backslashes stood before it, and the end of the text exactly
if it does not end with an odd number of them. The text of a graph gets no backslashes at all.
-/
import ProfileReadme.Proofs.Markdown.Destination

namespace ProfileReadme

namespace Markdown

/-! ## Brackets behind backslashes -/

def isBracket (c : Char) : Bool := c = '[' || c = ']'

/-- How many backslashes a text ends with. -/
def backslashes (cs : List Char) : Nat := (cs.reverse.takeWhile (· = '\\')).length

/-- The number of backslashes before each bracket of a text is as `p` says. -/
def Brackets (p : Nat → Prop) (cs : List Char) : Prop :=
  ∀ front c back, cs = front ++ c :: back → isBracket c = true → p (backslashes front)

/-- Each bracket of a text is escaped. -/
def Guarded (cs : List Char) : Prop := Brackets Odd cs

theorem backslashes_concat (cs : List Char) (c : Char) :
    backslashes (cs ++ [c]) = if c = '\\' then backslashes cs + 1 else 0 := by
  unfold backslashes
  rw [List.reverse_concat, List.takeWhile_cons]
  by_cases escapes : c = '\\'
  · simp [escapes]
  · simp [escapes]

/-- `Brackets` behind a text that ends with `run` backslashes, in one walk. -/
def BracketsFrom (p : Nat → Prop) : Nat → List Char → Prop
  | _, [] => True
  | run, c :: cs =>
    (isBracket c = true → p run) ∧ BracketsFrom p (if c = '\\' then run + 1 else 0) cs

theorem bracketsFrom_iff (p : Nat → Prop) (cs : List Char) : ∀ before,
    BracketsFrom p (backslashes before) cs ↔
      ∀ front c back, cs = front ++ c :: back → isBracket c = true →
        p (backslashes (before ++ front)) := by
  induction cs with
  | nil =>
    intro before
    exact iff_of_true trivial fun front c back eq => by cases front <;> cases eq
  | cons d cs ih =>
    intro before
    rw [BracketsFrom, ← backslashes_concat, ih]
    constructor
    · rintro ⟨here, later⟩ front c back eq bracket
      cases front with
      | nil =>
        obtain ⟨rfl, rfl⟩ := List.cons.inj eq
        rw [List.append_nil]
        exact here bracket
      | cons x front =>
        obtain ⟨rfl, rfl⟩ := List.cons.inj eq
        have := later front c back rfl bracket
        rwa [List.append_assoc] at this
    · intro all
      constructor
      · intro bracket
        have := all [] d cs rfl bracket
        rwa [List.append_nil] at this
      · intro front c back eq bracket
        rw [List.append_assoc]
        exact all (d :: front) c back (by rw [eq]; rfl) bracket

theorem brackets_iff (p : Nat → Prop) (cs : List Char) : Brackets p cs ↔ BracketsFrom p 0 cs :=
  (bracketsFrom_iff p cs []).symm

def bracketsFromDecidable (p : Nat → Prop) [DecidablePred p] :
    ∀ run cs, Decidable (BracketsFrom p run cs)
  | _, [] => isTrue trivial
  | run, c :: cs =>
    have := bracketsFromDecidable p (if c = '\\' then run + 1 else 0) cs
    inferInstanceAs (Decidable ((isBracket c = true → p run) ∧
      BracketsFrom p (if c = '\\' then run + 1 else 0) cs))

instance (p : Nat → Prop) [DecidablePred p] (cs : List Char) : Decidable (Brackets p cs) :=
  have := bracketsFromDecidable p 0 cs
  decidable_of_iff _ (brackets_iff p cs).symm

instance (cs : List Char) : Decidable (Guarded cs) := inferInstanceAs (Decidable (Brackets Odd cs))

/-! ## Escaped texts -/

/-- A bracket with its backslash. -/
def escapeBracket (c : Char) : List Char := if isBracket c then ['\\', c] else [c]

theorem escapeBrackets_toList (s : String) :
    (Inline.escapeBrackets s).toList = s.toList.flatMap escapeBracket := by
  unfold Inline.escapeBrackets
  rw [Text.replace_char _ _ (q := ']') rfl, Text.replace_char _ _ (q := '[') rfl,
    List.flatMap_assoc]
  refine congrArg (s.toList.flatMap ·) (funext fun c => ?_)
  unfold escapeBracket isBracket
  by_cases opens : c = '['
  · subst opens
    rfl
  · by_cases closes : c = ']'
    · subst closes
      rfl
    · simp [opens, closes]

/-- Escaping puts one backslash more before each bracket. -/
theorem bracketsFrom_escaped (p : Nat → Prop) (cs : List Char) : ∀ run,
    BracketsFrom p run (cs.flatMap escapeBracket) ↔ BracketsFrom (fun n => p (n + 1)) run cs := by
  induction cs with
  | nil => exact fun _ => Iff.rfl
  | cons c cs ih =>
    intro run
    rw [List.flatMap_cons, BracketsFrom, ← ih]
    cases bracket : isBracket c with
    | true =>
      have other : c ≠ '\\' := by
        rintro rfl
        cases bracket
      have opens : isBracket '\\' = false := rfl
      simp [escapeBracket, bracket, BracketsFrom, other, opens]
    | false => simp [escapeBracket, bracket, BracketsFrom]

theorem guarded_escaped_iff (s : String) :
    Guarded (Inline.escapeBrackets s).toList ↔ Brackets Even s.toList := by
  unfold Guarded
  rw [brackets_iff, brackets_iff, escapeBrackets_toList, bracketsFrom_escaped]
  have next : (fun n => Odd (n + 1)) = Even := funext fun n => propext (by grind)
  rw [next]

theorem backslashes_escaped (s : String) :
    backslashes (Inline.escapeBrackets s).toList = backslashes s.toList := by
  rw [escapeBrackets_toList]
  induction s.toList using List.reverseRecOn with
  | nil => rfl
  | append_singleton cs c ih =>
    rw [List.flatMap_append, List.flatMap_singleton, backslashes_concat]
    cases bracket : isBracket c with
    | true =>
      have other : c ≠ '\\' := by
        rintro rfl
        cases bracket
      -- a bracket ends the run, with its own backslash in it
      have split : cs.flatMap escapeBracket ++ escapeBracket c =
          cs.flatMap escapeBracket ++ ['\\'] ++ [c] := by simp [escapeBracket, bracket]
      rw [split, backslashes_concat, if_neg other, if_neg other]
    | false =>
      have same : escapeBracket c = [c] := by simp [escapeBracket, bracket]
      rw [same, backslashes_concat, ih]

/-! ## Reading -/

/-- The text of a bracket up to the one that closes it, with `depth` others open inside it;
`escaped` if a backslash has just been read. -/
def labelFrom : Nat → Bool → List Char → Option (List Char)
  | _, _, [] => none
  | depth, escaped, c :: cs =>
    if escaped && isPunctuation c then (labelFrom depth false cs).map (c :: ·)
    else if c = '[' then (labelFrom (depth + 1) false cs).map (c :: ·)
    else if c = ']' then
      if depth = 0 then some [] else (labelFrom (depth - 1) false cs).map (c :: ·)
    else (labelFrom depth (c = '\\') cs).map (c :: ·)

/-- The alternative text that a reader takes from a text behind `![`. -/
def label (cs : List Char) : Option (List Char) := labelFrom 0 false cs

/-- A text of escaped brackets is read as a whole, unless it escapes the bracket behind it. -/
theorem labelFrom_eq_iff (rest : List Char) (cs : List Char) : ∀ before,
    BracketsFrom Odd (backslashes before) cs →
      (labelFrom 0 (decide (Odd (backslashes before))) (cs ++ ']' :: rest) = some cs ↔
        Even (backslashes (before ++ cs))) := by
  induction cs with
  | nil =>
    intro before _
    rw [List.append_nil, List.nil_append, labelFrom]
    by_cases odd : Odd (backslashes before)
    · have : ¬ Even (backslashes before) := Nat.not_even_iff_odd.2 odd
      simp [odd, this, isPunctuation]
    · simp [odd, Nat.not_odd_iff_even.1 odd]
  | cons c cs ih =>
    -- a character is escaped if an odd number of backslashes has just been read
    intro before guarded
    obtain ⟨here, later⟩ := guarded
    rw [← backslashes_concat] at later
    have ih := ih (before ++ [c]) later
    rw [List.append_assoc, List.singleton_append, backslashes_concat] at ih
    rw [← ih, List.cons_append, labelFrom]
    by_cases escapes : c = '\\'
    · subst escapes
      by_cases odd : Odd (backslashes before)
      · have : ¬ Odd (backslashes before + 1) := by grind
        simp [odd, this, isPunctuation]
      · have : Odd (backslashes before + 1) := by grind
        simp [odd, this]
    · by_cases bracket : isBracket c = true
      · have punctuation : isPunctuation c = true := by
          simp only [isBracket, Bool.or_eq_true, decide_eq_true_eq] at bracket
          rcases bracket with rfl | rfl <;> rfl
        simp [here bracket, punctuation, escapes]
      · have other : c ≠ '[' ∧ c ≠ ']' := by simpa [isBracket] using bracket
        simp [other, escapes]

theorem label_eq_iff {cs : List Char} (guarded : Guarded cs) (rest : List Char) :
    label (cs ++ ']' :: rest) = some cs ↔ Even (backslashes cs) := by
  have walk := (brackets_iff Odd cs).1 guarded
  exact labelFrom_eq_iff rest cs [] walk

end Markdown

/-! ## Embedded images -/

namespace Element

open Markdown

/-- Whether an image is written as markup: markdown has no sizes and no alignment. -/
def Image.isMarkup (i : Image) : Bool :=
  (setAlign? i.align).isSome || (sizeOf? i.width).isSome || (sizeOf? i.height).isSome

/-- The image that the markdown of a block embeds: its alternative text and its source. -/
def embedded? : Element → Option (String × String)
  | .image i => if i.isMarkup then none else some (i.alt, i.src)
  | .badge b => some (b.label, b.imageUrl)
  | .social s => if s.showIcon then some (s.text, s.imageUrl) else none
  | .typing t => if t.texts.isEmpty then none else some ("Typing SVG", t.imageUrl)
  | .statsCard c => some (c.alt, c.imageUrl)
  | .graph g => some (g.alt, g.imageUrl)
  | _ => none

/-- The text of a graph is embedded as it is. -/
def escapesAlt : Element → Bool
  | .graph _ => false
  | _ => true

/-- An alternative text as the markdown of a block has it. -/
def writtenAlt (e : Element) (alt : String) : String :=
  if e.escapesAlt then Inline.escapeBrackets alt else alt

theorem embed_written {e : Element} (escapes : e.escapesAlt = true) (alt src : String) :
    embed alt src = "![" ++ e.writtenAlt alt ++ "](" ++ src ++ ")" := by
  unfold embed writtenAlt
  rw [if_pos escapes]

/-- An embedded image is the markdown of its block, or the text of the link that this is. -/
theorem markdown_embedded {e : Element} {alt src : String} (h : e.embedded? = some (alt, src)) :
    e.markdown = "![" ++ e.writtenAlt alt ++ "](" ++ src ++ ")" ∨
      ∃ href, e.markdown = linkTo ("![" ++ e.writtenAlt alt ++ "](" ++ src ++ ")") href := by
  have linked (href : Option String) (image : String) :
      Markdown.linked href image = image ∨
        ∃ url, Markdown.linked href image = linkTo image url := by
    unfold Markdown.linked
    cases Text.filled? href with
    | none => exact .inl rfl
    | some href => exact .inr ⟨href, rfl⟩
  cases e with
  | image i =>
    obtain ⟨plain, eq⟩ := Option.ite_none_left_eq_some.1 h
    cases eq
    have markdown : (Element.image i).markdown = Markdown.linked i.link (embed i.alt i.src) :=
      if_neg plain
    rw [markdown, ← embed_written (e := .image i) rfl]
    exact linked i.link _
  | badge b =>
    cases h
    have markdown : (Element.badge b).markdown =
        Markdown.linked b.link (embed b.label b.imageUrl) := rfl
    rw [markdown, ← embed_written (e := .badge b) rfl]
    exact linked b.link _
  | social s =>
    obtain ⟨shown, eq⟩ := Option.ite_none_right_eq_some.1 h
    cases eq
    have markdown : (Element.social s).markdown = linkTo (embed s.text s.imageUrl) s.url :=
      congrArg (linkTo · s.url) (if_pos shown)
    rw [markdown, ← embed_written (e := .social s) rfl]
    exact .inr ⟨s.url, rfl⟩
  | typing t =>
    obtain ⟨shown, eq⟩ := Option.ite_none_left_eq_some.1 h
    cases eq
    have markdown : (Element.typing t).markdown = embed "Typing SVG" t.imageUrl := if_neg shown
    rw [markdown, ← embed_written (e := .typing t) rfl]
    exact .inl rfl
  | statsCard c =>
    cases h
    have markdown : (Element.statsCard c).markdown = embed c.alt c.imageUrl := rfl
    rw [markdown, ← embed_written (e := .statsCard c) rfl]
    exact .inl rfl
  | graph g =>
    -- the one text that is not escaped
    cases h
    have written : (Element.graph g).writtenAlt g.alt = g.alt := rfl
    rw [written]
    exact .inl rfl
  | _ => cases h

theorem guarded_written_iff (e : Element) (alt : String) :
    Guarded (e.writtenAlt alt).toList ↔
      Brackets (if e.escapesAlt then Even else Odd) alt.toList := by
  unfold writtenAlt
  cases e.escapesAlt with
  | true => exact guarded_escaped_iff alt
  | false => exact Iff.rfl

theorem backslashes_written (e : Element) (alt : String) :
    backslashes (e.writtenAlt alt).toList = backslashes alt.toList := by
  unfold writtenAlt
  cases e.escapesAlt with
  | true => exact backslashes_escaped alt
  | false => rfl

/-- The alternative text of an embedded image has each bracket behind an odd number of backslashes
exactly if the text given had each behind an even number of them; in a graph, which escapes none,
exactly if the text given had each behind an odd number. Then a reader takes the text as a whole,
unless it ends with an odd number of backslashes, the last of which escapes the bracket behind. -/
theorem alternative_guarded {e : Element} {alt src : String} (h : e.embedded? = some (alt, src)) :
    (e.markdown = "![" ++ e.writtenAlt alt ++ "](" ++ src ++ ")" ∨
      ∃ href, e.markdown = linkTo ("![" ++ e.writtenAlt alt ++ "](" ++ src ++ ")") href) ∧
    (Guarded (e.writtenAlt alt).toList ↔
      Brackets (if e.escapesAlt then Even else Odd) alt.toList) ∧
    (Guarded (e.writtenAlt alt).toList → ∀ rest,
      (label ((e.writtenAlt alt).toList ++ ']' :: rest) = some (e.writtenAlt alt).toList ↔
        Even (backslashes alt.toList))) := by
  refine ⟨markdown_embedded h, e.guarded_written_iff alt, fun guarded rest => ?_⟩
  rw [label_eq_iff guarded, e.backslashes_written alt]

/-- A badge with an index for its label. -/
def indexBadge : Element := .badge { label := "v[2]", link := some "https://example.org" }

theorem indexBadge_guarded :
    indexBadge.embedded? =
        some ("v[2]", "https://img.shields.io/badge/v%5B2%5D-0969da?style=for-the-badge") ∧
      Guarded (indexBadge.writtenAlt "v[2]").toList ∧
      ∀ rest, label ("v\\[2\\]".toList ++ ']' :: rest) = some "v\\[2\\]".toList := by
  have embedded : indexBadge.embedded? =
      some ("v[2]", "https://img.shields.io/badge/v%5B2%5D-0969da?style=for-the-badge") := by
    decide
  obtain ⟨-, guarded_iff, reads⟩ := alternative_guarded embedded
  have bare : Brackets Even "v[2]".toList := by decide
  have guarded := guarded_iff.2 bare
  exact ⟨embedded, guarded, fun rest => (reads guarded rest).2 (by decide)⟩

/-- The text of a graph ends at a bracket of the account, and a bracket behind a backslash gets no
guard. -/
theorem alternative_cut :
    markdown (.graph { username := "a]" }) = "![a]'s contribution graph](" ++
        "https://github-readme-activity-graph.vercel.app/graph?username=a%5D&theme=github-compact)"
      ∧ ¬ Guarded "a]'s contribution graph".toList ∧
      label "a]'s contribution graph](".toList = some "a".toList ∧
    markdown (.badge { label := "\\]" }) =
        "![\\\\]](https://img.shields.io/badge/%5C%5D-0969da?style=for-the-badge)" ∧
      ¬ Guarded "\\\\]".toList ∧ label "\\\\]](".toList = some "\\\\".toList := by
  decide

end Element

end ProfileReadme
