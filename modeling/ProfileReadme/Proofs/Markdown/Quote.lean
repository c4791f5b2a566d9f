/-
Which lines of a quote carry its mark. The value is marked line by line, but only where line feeds
cut it, while a readme takes a lone carriage return for a line break as well; and an author and a
source are written as they are. So every line is marked exactly if behind each lone return of the
value, and behind each break of an author or a source, there stands a mark already.
-/
import ProfileReadme.Markdown.Block
import ProfileReadme.Proofs.Markdown.Document

namespace ProfileReadme

/-! ## Breaks with a mark behind them -/

namespace Text

/-- Every line of a text begins with the mark of a quote. -/
def IsQuoted (s : String) : Prop := ∀ line ∈ lines s, hasStart ">" line = true

instance (s : String) : Decidable (IsQuoted s) :=
  inferInstanceAs (Decidable (∀ line ∈ lines s, hasStart ">" line = true))

/-- Behind every line feed stands the mark of a quote. -/
def feedsMarked : List Char → Bool
  | [] => true
  | c :: cs => (c != '\n' || cs.head? == some '>') && feedsMarked cs

/-- Behind every carriage return stands a line feed or the mark of a quote. -/
def returnsMarked : List Char → Bool
  | [] => true
  | c :: cs => (c != '\r' || cs.head? == some '\n' || cs.head? == some '>') && returnsMarked cs

/-- Behind every line break stands the mark of a quote. -/
def breaksMarked (cs : List Char) : Bool := feedsMarked cs && returnsMarked cs

theorem hasStart_mark (cs : List Char) :
    hasStart ">" (String.ofList cs) = (cs.head? == some '>') := by
  rw [hasStart, String.toList_ofList]
  cases cs with
  | nil => rfl
  | cons c cs => simp [List.isPrefixOf, BEq.comm]

/-- What the first line starts with, the text starts with. -/
theorem head?_splitAt {m c : Char} (apart : c ≠ m) (cs : List Char) :
    ((splitAt (· == m) cs).head?.bind List.head? = some c) ↔ cs.head? = some c := by
  cases cs with
  | nil => simp [splitAt]
  | cons d cs =>
    unfold splitAt
    by_cases mark : d = m
    · simp [mark, apart.symm]
    · cases found : splitAt (· == m) cs <;> simp [mark]

/-- The lines after the first are marked exactly if each feed has a mark behind it. -/
theorem tail_splitAt_iff (cs : List Char) :
    (∀ line ∈ (splitAt (· == '\n') cs).tail, line.head? = some '>') ↔ feedsMarked cs = true := by
  induction cs with
  | nil => simp [splitAt, feedsMarked]
  | cons c cs ih =>
    have first := head?_splitAt (m := '\n') (c := '>') (by decide) cs
    unfold splitAt feedsMarked
    cases found : splitAt (· == '\n') cs with
    | nil => exact absurd found (splitAt_ne_nil _ cs)
    | cons piece pieces =>
      rw [found] at ih first
      by_cases feed : c = '\n'
      · simp [feed, ← first, ← ih]
      · simp [feed, ← ih]

theorem isQuoted_iff (s : String) :
    IsQuoted s ↔ s.toList.head? = some '>' ∧ feedsMarked s.toList = true := by
  have first := head?_splitAt (m := '\n') (c := '>') (by decide) s.toList
  have later := tail_splitAt_iff s.toList
  unfold IsQuoted lines
  simp only [List.forall_mem_map, hasStart_mark, beq_iff_eq]
  cases found : splitAt (· == '\n') s.toList with
  | nil => exact absurd found (splitAt_ne_nil _ _)
  | cons piece pieces =>
    rw [found] at first later
    rw [List.forall_mem_cons, ← first, ← later]
    rfl

theorem feedsMarked_cons (c : Char) (cs : List Char) :
    feedsMarked (c :: cs) = true ↔ (c = '\n' → cs.head? = some '>') ∧ feedsMarked cs = true := by
  rw [feedsMarked]
  simp [imp_iff_not_or]

theorem breaksMarked_cons (c : Char) (cs : List Char) :
    breaksMarked (c :: cs) = true ↔
      (c = '\n' → cs.head? = some '>') ∧
      (c = '\r' → cs.head? = some '\n' ∨ cs.head? = some '>') ∧ breaksMarked cs = true := by
  unfold breaksMarked
  rw [Bool.and_eq_true, feedsMarked_cons, returnsMarked]
  simp [imp_iff_not_or, or_assoc]
  tauto

/-- Texts side by side have their breaks marked apart if no break may go on from one to the other,
and the second one brings no mark. -/
theorem breaksMarked_append {cs rest : List Char} (h : ∀ c ∈ rest.head?, c ≠ '\n' ∧ c ≠ '>') :
    breaksMarked (cs ++ rest) = true ↔ breaksMarked cs = true ∧ breaksMarked rest = true := by
  have other : rest.head? ≠ some '\n' ∧ rest.head? ≠ some '>' :=
    ⟨fun eq => (h _ eq).1 rfl, fun eq => (h _ eq).2 rfl⟩
  induction cs with
  | nil => simp [breaksMarked, feedsMarked, returnsMarked]
  | cons c cs ih =>
    rw [List.cons_append, breaksMarked_cons, breaksMarked_cons]
    cases cs with
    | nil =>
      rw [List.nil_append]
      simp [other, breaksMarked, feedsMarked, returnsMarked, and_assoc]
    | cons d cs =>
      simp only [ih]
      simp [and_assoc]

end Text

/-! ## Line ends -/

namespace LineEnding

open Text

theorem head?_unify (cs : List Char) : (unify cs).head? = some '>' ↔ cs.head? = some '>' := by
  fun_cases unify cs with
  | case1 => rfl
  | case2 => simp
  | case3 => simp
  | case4 => rfl

theorem feedsMarked_unify (cs : List Char) :
    feedsMarked (unify cs) = true ↔ breaksMarked cs = true := by
  fun_induction unify cs with
  | case1 => exact iff_of_true rfl rfl
  | case2 cs ih =>
    rw [breaksMarked_cons, breaksMarked_cons, feedsMarked_cons, head?_unify, ih]
    simp
  | case3 cs alone ih =>
    have apart : cs.head? ≠ some '\n' := fun feed => by
      obtain ⟨rest, rfl⟩ := List.head?_eq_some_iff.1 feed
      exact alone rest rfl
    rw [breaksMarked_cons, feedsMarked_cons, head?_unify, ih]
    simp [apart]
  | case4 c cs apart single ih =>
    have single : c ≠ '\r' := single
    rw [breaksMarked_cons, feedsMarked_cons, head?_unify, ih]
    simp [single]

/-- How the line ends are written makes no difference to the marks. -/
theorem marked_written (e : LineEnding) (cs : List Char) :
    ((cs.flatMap e.written).head? = some '>' ↔ cs.head? = some '>') ∧
      (feedsMarked (cs.flatMap e.written) = true ↔ feedsMarked cs = true) := by
  cases e with
  | lf =>
    have same : cs.flatMap lf.written = cs := List.flatMap_singleton' cs
    rw [same]
    exact ⟨Iff.rfl, Iff.rfl⟩
  | crlf =>
    induction cs with
    | nil => exact ⟨Iff.rfl, Iff.rfl⟩
    | cons c cs ih =>
      rw [List.flatMap_cons]
      by_cases feed : c = '\n'
      · have pair : crlf.written c = ['\r', '\n'] := if_pos feed
        rw [pair, List.cons_append, List.singleton_append, feedsMarked_cons, feedsMarked_cons,
          feedsMarked_cons, ih.1, ih.2]
        simp [feed]
      · have single : crlf.written c = [c] := if_neg feed
        rw [single, List.singleton_append, feedsMarked_cons, feedsMarked_cons, ih.2]
        simp [feed]

theorem isQuoted_normalize_iff (e : LineEnding) (s : String) :
    IsQuoted (e.normalize s) ↔ s.toList.head? = some '>' ∧ breaksMarked s.toList = true := by
  obtain ⟨first, feeds⟩ := marked_written e (unify s.toList)
  rw [isQuoted_iff, normalize_toList, first, feeds, head?_unify, feedsMarked_unify]

end LineEnding

/-! ## Quotes -/

namespace Element.Quote

open Text

/-- A line behind another one. -/
def nextLine (s : String) : List Char := '\n' :: s.toList

theorem join_toList_lines (first : String) (others : List String) :
    (join "\n" (first :: others)).toList = first.toList ++ others.flatMap nextLine := by
  induction others generalizing first with
  | nil => exact (List.append_nil _).symm
  | cons next others ih =>
    rw [join_cons_toList, ih]
    rfl

/-- The mark before a line is no break. -/
theorem breaksMarked_line (cs rest : List Char) :
    breaksMarked ((line (String.ofList cs)).toList ++ rest) = true ↔
      breaksMarked (cs ++ rest) = true := by
  unfold line
  cases cs with
  | nil => simp [breaksMarked_cons]
  | cons c cs => simp [breaksMarked_cons]

theorem head?_line (cs rest : List Char) :
    ((line (String.ofList cs)).toList ++ rest).head? = some '>' := by
  unfold line
  cases cs with
  | nil => rfl
  | cons c cs => simp

/-- A text goes on with the first line, or with the break that ends an empty one. -/
theorem cut_cases {c : Char} {cs first : List Char} {others : List (List Char)}
    (h : splitAt (· == '\n') (c :: cs) = first :: others) :
    (c = '\n' ∧ first = [] ∧ splitAt (· == '\n') cs = others) ∨
      (c ≠ '\n' ∧ ∃ next, first = c :: next ∧ splitAt (· == '\n') cs = next :: others) := by
  unfold splitAt at h
  by_cases feed : c = '\n'
  · rw [if_pos (by simpa using feed), List.cons.injEq] at h
    exact .inl ⟨feed, h.1.symm, h.2⟩
  · rw [if_neg (by simpa using feed)] at h
    cases found : splitAt (· == '\n') cs with
    | nil => exact absurd found (splitAt_ne_nil _ cs)
    | cons next later =>
      rw [found] at h
      cases h
      exact .inr ⟨feed, next, rfl, rfl⟩

/-- The lines of a text behind the first, with their marks. -/
def furtherLines (others : List (List Char)) : List Char :=
  (others.map fun l => line (String.ofList l)).flatMap nextLine

theorem furtherLines_cons (next : List Char) (others : List (List Char)) :
    furtherLines (next :: others) =
      '\n' :: ((line (String.ofList next)).toList ++ furtherLines others) := rfl

variable {first rest : List Char} {others : List (List Char)}

/-- A mark is put behind a break, so what begins a text begins it with the marks, too. -/
theorem head?_lines {cs : List Char} (h : splitAt (· == '\n') cs = first :: others) :
    (first ++ (furtherLines others ++ rest)).head? = (cs ++ rest.head?.toList).head? := by
  cases cs with
  | nil =>
    cases h
    cases rest <;> rfl
  | cons c cs =>
    rcases cut_cases h with ⟨rfl, rfl, found⟩ | ⟨-, next, rfl, -⟩
    · cases others with
      | nil => exact absurd found (splitAt_ne_nil _ cs)
      | cons next later => rfl
    · rfl

/-- With a mark for each of its lines, a text has marks behind all breaks exactly if it has them
behind its lone returns, one at its end counting with what follows there. -/
theorem breaksMarked_lines (ended : ∀ c ∈ rest.head?, c = '\n') {cs : List Char}
    (h : splitAt (· == '\n') cs = first :: others) :
    breaksMarked (first ++ (furtherLines others ++ rest)) = true ↔
      returnsMarked (cs ++ rest.head?.toList) = true ∧ breaksMarked rest = true := by
  induction cs generalizing first others with
  | nil =>
    cases h
    have plain : returnsMarked rest.head?.toList = true := by
      cases front : rest.head? with
      | none => rfl
      | some c => simp [returnsMarked, ended c front]
    rw [List.nil_append, List.nil_append, plain, eq_self, true_and]
    rfl
  | cons c cs ih =>
    have front : (first ++ (furtherLines others ++ rest)).head? =
        (c :: cs ++ rest.head?.toList).head? := head?_lines h
    rcases cut_cases h with ⟨rfl, rfl, found⟩ | ⟨feed, next, rfl, found⟩
    · cases others with
      | nil => exact absurd found (splitAt_ne_nil _ cs)
      | cons next later =>
        rw [List.nil_append, furtherLines_cons, List.cons_append, List.append_assoc,
          breaksMarked_cons, head?_line, breaksMarked_line, ih found]
        simp [returnsMarked]
    · rw [List.cons_append, breaksMarked_cons, ih found, head?_lines found, List.cons_append,
        returnsMarked]
      simp [feed, imp_iff_not_or, and_assoc, or_assoc]

/-! ## Author and source -/

/-- The author of a quote and the source, as far as they are written. -/
def credits (q : Quote) : List String :=
  match filled? q.author with
  | some author => author :: (filled? q.source).toList
  | none => []

/-- The lines behind the value, which name author and source. -/
def attribution (q : Quote) : List String :=
  match filled? q.author with
  | some author =>
    let source := match filled? q.source with
      | some source => ", *" ++ source ++ "*"
      | none => ""
    [">", "> — " ++ author ++ source]
  | none => []

theorem markdown_eq {q : Quote} (filled : q.value ≠ "") :
    q.markdown = join "\n" ((lines q.value).map line ++ q.attribution) := by
  unfold markdown
  rw [if_neg (by simpa using filled)]
  rfl

theorem breaksMarked_named (s : String) :
    breaksMarked ([">", "> — " ++ s].flatMap nextLine) = true ↔ breaksMarked s.toList = true := by
  have start : "> — ".toList = ['>', ' ', '—', ' '] := rfl
  simp [nextLine, String.toList_append, start, breaksMarked_cons]

theorem breaksMarked_sourced (author source : String) :
    breaksMarked (author ++ (", *" ++ source ++ "*")).toList = true ↔
      breaksMarked author.toList = true ∧ breaksMarked source.toList = true := by
  have front : ", *".toList = [',', ' ', '*'] := rfl
  have back : "*".toList = ['*'] := rfl
  have closed : breaksMarked (source.toList ++ ['*']) = true ↔
      breaksMarked source.toList = true := by
    rw [breaksMarked_append (by simp)]
    exact and_iff_left rfl
  rw [String.toList_append, breaksMarked_append (by simp [String.toList_append, front]),
    String.toList_append, String.toList_append, front, back]
  simp [breaksMarked_cons, closed]

theorem attribution_iff (q : Quote) :
    breaksMarked (q.attribution.flatMap nextLine) = true ↔
      ∀ s ∈ q.credits, breaksMarked s.toList = true := by
  unfold attribution credits
  cases filled? q.author with
  | none => simp [breaksMarked, feedsMarked, returnsMarked]
  | some author =>
    cases filled? q.source with
    | none => simpa using breaksMarked_named author
    | some source =>
      have both := (breaksMarked_named (author ++ (", *" ++ source ++ "*"))).trans
        (breaksMarked_sourced author source)
      rw [← String.append_assoc] at both
      exact both.trans (by simp)

/-- What follows the value: the line end before the attribution, if there is one. -/
theorem attribution_head? (q : Quote) : (q.attribution.flatMap nextLine).head?.toList =
    if q.credits = [] then [] else ['\n'] := by
  unfold attribution credits
  cases filled? q.author <;> rfl

end Element.Quote

/-- Every line of the markdown of a visible quote that has a value begins with the mark of a quote,
with either line end, exactly if there is a mark behind each lone return of the value, and behind
each break of the author and of the source. A return that ends the value has a line feed behind it
if the author is named. -/
theorem Block.quote_marked_iff (id : String) {q : Element.Quote} (filled : q.value ≠ "")
    (e : LineEnding) :
    Text.IsQuoted (e.normalize (Block.element id true (.quote q)).markdown) ↔
      Text.returnsMarked (q.value.toList ++ if q.credits = [] then [] else ['\n']) = true ∧
        ∀ s ∈ q.credits, Text.breaksMarked s.toList = true := by
  have ended : ∀ c ∈ (q.attribution.flatMap Element.Quote.nextLine).head?, c = '\n' := by
    intro c hc
    have mem := Option.mem_toList.2 hc
    rw [q.attribution_head?] at mem
    split at mem
    · cases mem
    · exact List.mem_singleton.1 mem
  obtain ⟨first, others, cut⟩ := List.exists_cons_of_ne_nil
    (Text.splitAt_ne_nil (· == '\n') q.value.toList)
  have written : (Block.element id true (.quote q)).markdown.toList =
      (Element.Quote.line (String.ofList first)).toList ++ (Element.Quote.furtherLines others ++
        q.attribution.flatMap Element.Quote.nextLine) := by
    show q.markdown.toList = _
    rw [Element.Quote.markdown_eq filled, Text.lines, cut, List.map_cons, List.map_cons,
      List.cons_append, Element.Quote.join_toList_lines, List.flatMap_append, List.map_map]
    rfl
  rw [LineEnding.isQuoted_normalize_iff, written, Element.Quote.head?_line,
    Element.Quote.breaksMarked_line, Element.Quote.breaksMarked_lines ended cut,
    q.attribution_head?, q.attribution_iff]
  simp

/-- A pair of return and feed is one break, a return before a mark and one before the attribution
do no harm, and an author may bring marks of his own. -/
theorem Block.steppedQuote_marked : "a\r\nb\r>c\r" ≠ "" ∧
    Text.IsQuoted (LineEnding.crlf.normalize (Block.element "q" true
      (.quote { value := "a\r\nb\r>c\r", author := some "A\n>B" })).markdown) :=
  ⟨by decide, (Block.quote_marked_iff "q" (by decide) .crlf).2 (by decide)⟩

/-- A return in the value, or a break in an author or a source, begins a line without a mark. -/
theorem Block.quote_left :
    Text.lines (LineEnding.lf.normalize (Block.element "q" true
      (.quote { value := "a\rb" })).markdown) = ["> a", "b"] ∧
    ¬ Text.IsQuoted (LineEnding.lf.normalize (Block.element "q" true
      (.quote { value := "a\rb" })).markdown) ∧
    ¬ Text.IsQuoted (LineEnding.lf.normalize (Block.element "q" true
      (.quote { value := "a", author := some "b\nc" })).markdown) ∧
    ¬ Text.IsQuoted (LineEnding.lf.normalize (Block.element "q" true
      (.quote { value := "a", author := some "b", source := some "c\nd" })).markdown) := by
  decide

end ProfileReadme
