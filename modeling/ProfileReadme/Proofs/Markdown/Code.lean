/-
Where code ends. A span of code lasts from a run of backticks to the next run of the same length, a
fenced block to the first line that closes its fence. A span gets one backtick on either side, or
two if its text has any: so the texts with a run of two are the ones cut short. A fence always has
three, so the lines of its text decide whether it lasts, and a language must not end its own line.
-/
import ProfileReadme.Markdown.Block
import ProfileReadme.Proofs.Markdown.Document

namespace ProfileReadme

/-! ## Lines -/

namespace LineEnding

/-- A line feed ends a line, whatever stands before it. -/
theorem unify_lineFeed (cs : List Char) :
    ∃ line, ∀ rest, unify (cs ++ '\n' :: rest) = line ++ '\n' :: unify rest := by
  fun_induction unify cs with
  | case1 => exact ⟨[], fun rest => rfl⟩
  | case2 cs ih =>
    obtain ⟨line, eq⟩ := ih
    exact ⟨'\n' :: line, fun rest => congrArg ('\n' :: ·) (eq rest)⟩
  | case3 cs alone ih =>
    obtain ⟨line, eq⟩ := ih
    cases cs with
    | nil => exact ⟨[], fun rest => rfl⟩
    | cons c cs =>
      -- the return stands alone with more text behind it, too
      refine ⟨'\n' :: line, fun rest => ?_⟩
      have ahead : ∀ ds, (c :: cs) ++ '\n' :: rest = '\n' :: ds → False :=
        fun ds same => alone cs (by rw [(List.cons.inj same).1])
      show unify ('\r' :: ((c :: cs) ++ '\n' :: rest)) = _
      rw [unify.eq_3 _ ahead, eq rest]
      rfl
  | case4 c cs apart single ih =>
    obtain ⟨line, eq⟩ := ih
    refine ⟨c :: line, fun rest => ?_⟩
    show unify (c :: (cs ++ '\n' :: rest)) = _
    rw [unify.eq_4 c _ (fun _ hc _ => single hc) single, eq rest]
    rfl

theorem unify_plain {cs : List Char} (plain : '\r' ∉ cs) (rest : List Char) :
    unify (cs ++ '\n' :: rest) = cs ++ '\n' :: unify rest := by
  induction cs with
  | nil => rfl
  | cons c cs ih =>
    rw [List.mem_cons, not_or] at plain
    rw [List.cons_append, unify.eq_4 c _ (fun _ hc _ => plain.1 hc.symm) (Ne.symm plain.1),
      ih plain.2, List.cons_append]

theorem not_mem_unify (cs : List Char) : '\r' ∉ unify cs := by
  fun_induction unify cs with
  | case1 => exact List.not_mem_nil
  | case2 cs ih => simp [ih]
  | case3 cs alone ih => simp [ih]
  | case4 c cs apart single ih => simp [ih, Ne.symm single]

end LineEnding

namespace Markdown

open LineEnding Text

/-- The lines of a text as a reader of markdown takes them. -/
def linesOf (cs : List Char) : List (List Char) := splitAt (· == '\n') (unify cs)

/-- The lines of a text with a line feed behind its last one. -/
def endedLines (cs : List Char) : List (List Char) := (linesOf (cs ++ ['\n'])).dropLast

theorem linesOf_append (cs rest : List Char) :
    linesOf (cs ++ '\n' :: rest) = endedLines cs ++ linesOf rest := by
  obtain ⟨line, eq⟩ := unify_lineFeed cs
  unfold endedLines linesOf
  rw [eq, eq, splitAt_mark rfl, splitAt_mark rfl]
  show _ = (splitAt _ line ++ [[]]).dropLast ++ _
  rw [List.dropLast_concat]

theorem endedLines_plain {cs : List Char} (plain : '\r' ∉ cs) (single : '\n' ∉ cs) :
    endedLines cs = [cs] := by
  have apart : splitAt (· == '\n') cs = [cs] :=
    splitAt_plain fun c hc => beq_eq_false_iff_ne.2 fun eq => single (eq ▸ hc)
  unfold endedLines linesOf
  rw [unify_plain plain, splitAt_mark rfl, apart]
  rfl

theorem mem_linesOf {line cs : List Char} (h : line ∈ linesOf cs) : '\r' ∉ line ∧ '\n' ∉ line := by
  constructor
  · exact fun mem => not_mem_unify cs (mem_splitAt h _ mem).1
  · exact fun mem => by simpa using (mem_splitAt h _ mem).2

/-! ## Spans -/

/-- How many backticks a text starts with. -/
def ticks (cs : List Char) : Nat := (cs.takeWhile (· = '\x60')).length

/-- A run of `n` backticks, and of no more, stands in a text. -/
def HasRun (n : Nat) (cs : List Char) : Prop :=
  ∃ front back, cs = front ++ (List.replicate n '\x60' ++ back) ∧
    (∀ c ∈ front.getLast?, c ≠ '\x60') ∧ ∀ c ∈ back.head?, c ≠ '\x60'

/-- The text up to the first run of `n` backticks, and what follows the run; `inRun` if the text
continues a run. -/
def spanFrom (n : Nat) : Bool → List Char → Option (List Char × List Char)
  | _, [] => none
  | inRun, c :: cs =>
    if inRun = false ∧ ticks (c :: cs) = n then some ([], (c :: cs).drop n)
    else (spanFrom n (c = '\x60') cs).map fun (content, rest) => (c :: content, rest)

/-- The span of code that a text starts with: what stands in it, and what follows it. -/
def span? (cs : List Char) : Option (List Char × List Char) :=
  if ticks cs = 0 then none else spanFrom (ticks cs) true (cs.drop (ticks cs))

/-- `HasRun`, in one walk over a text that may continue a run. -/
def RunFrom (n : Nat) : Bool → List Char → Prop
  | _, [] => False
  | inRun, c :: cs => (inRun = false ∧ ticks (c :: cs) = n) ∨ RunFrom n (c = '\x60') cs

theorem ticks_eq_iff {n : Nat} {cs : List Char} :
    ticks cs = n ↔ ∃ back, cs = List.replicate n '\x60' ++ back ∧ ∀ c ∈ back.head?, c ≠ '\x60' := by
  constructor
  · rintro rfl
    obtain ⟨front, back, rfl, all, stop⟩ := exists_run (· = '\x60') cs
    have run : front = List.replicate (ticks (front ++ back)) '\x60' := by
      rw [ticks, (takeWhile_append_stop all stop).1]
      exact List.eq_replicate_iff.2 ⟨rfl, fun c hc => by simpa using all c hc⟩
    exact ⟨back, by rw [← run], by simpa using stop⟩
  · rintro ⟨back, rfl, stop⟩
    have run := takeWhile_append_stop (p := (· = '\x60')) (l := List.replicate n '\x60')
      (fun c hc => by simpa using List.eq_of_mem_replicate hc)
      (fun c hc => by simpa using stop c hc)
    rw [ticks, run.1, List.length_replicate]

theorem hasRun_iff_behind {n : Nat} (pos : 0 < n) (cs : List Char) : ∀ before : List Char,
    RunFrom n (before.getLast? = some '\x60') cs ↔
      ∃ front back, cs = front ++ (List.replicate n '\x60' ++ back) ∧
        (∀ c ∈ (before ++ front).getLast?, c ≠ '\x60') ∧ ∀ c ∈ back.head?, c ≠ '\x60' := by
  induction cs with
  | nil =>
    intro before
    refine iff_of_false id ?_
    rintro ⟨front, back, eq, -⟩
    have := congrArg List.length eq
    simp at this
    omega
  | cons d cs ih =>
    intro before
    have ih := ih (before ++ [d])
    rw [List.getLast?_concat] at ih
    have last : (decide (before.getLast? = some '\x60') = false) ↔
        ∀ c ∈ before.getLast?, c ≠ '\x60' := by
      cases before.getLast? <;> simp
    simp only [Option.some.injEq] at ih
    rw [RunFrom, ih, last, ticks_eq_iff]
    constructor
    · rintro (⟨apart, back, eq, stop⟩ | ⟨front, back, rfl, apart, stop⟩)
      · exact ⟨[], back, eq, by rwa [List.append_nil], stop⟩
      · exact ⟨d :: front, back, rfl, by rwa [List.append_assoc] at apart, stop⟩
    · rintro ⟨front, back, eq, apart, stop⟩
      cases front with
      | nil => exact .inl ⟨by rwa [List.append_nil] at apart, back, eq, stop⟩
      | cons x front =>
        obtain ⟨rfl, rfl⟩ := List.cons.inj eq
        exact .inr ⟨front, back, rfl, by rwa [List.append_assoc], stop⟩

theorem hasRun_iff {n : Nat} (pos : 0 < n) (cs : List Char) : HasRun n cs ↔ RunFrom n false cs :=
  (hasRun_iff_behind pos cs []).symm

/-- Another character ends a run. -/
theorem ticks_stop {c : Char} (apart : c ≠ '\x60') (cs rest : List Char) :
    ticks (cs ++ c :: rest) = ticks cs := by
  obtain ⟨back, eq, stop⟩ := ticks_eq_iff.1 (Eq.refl (ticks cs))
  refine ticks_eq_iff.2 ⟨back ++ c :: rest, by rw [← List.append_assoc, ← eq], ?_⟩
  cases back with
  | nil => simpa using apart
  | cons d back => exact stop

theorem ticks_append {cs : List Char} (rest : List Char) {last : Char}
    (ends : cs.getLast? = some last) (apart : last ≠ '\x60') : ticks (cs ++ rest) = ticks cs := by
  obtain ⟨front, rfl⟩ := List.getLast?_eq_some_iff.1 ends
  rw [List.append_assoc, List.singleton_append, ticks_stop apart, ticks_stop apart]

theorem runFrom_cons {n : Nat} (pos : 0 < n) {c : Char} (apart : c ≠ '\x60') (inRun : Bool)
    (cs : List Char) : RunFrom n inRun (c :: cs) ↔ RunFrom n false cs := by
  have none : ticks (c :: cs) = 0 := ticks_stop apart [] cs
  have other : ¬ (inRun = false ∧ ticks (c :: cs) = n) := by omega
  rw [RunFrom, or_iff_right other, decide_eq_false apart]

theorem runFrom_concat {n : Nat} (pos : 0 < n) {c : Char} (apart : c ≠ '\x60') (cs : List Char) :
    ∀ inRun, RunFrom n inRun (cs ++ [c]) ↔ RunFrom n inRun cs := by
  induction cs with
  | nil => exact fun inRun => runFrom_cons pos apart inRun []
  | cons d cs ih =>
    intro inRun
    have same : ticks (d :: (cs ++ [c])) = ticks (d :: cs) := ticks_stop apart (d :: cs) []
    rw [List.cons_append, RunFrom, RunFrom, ih, same]

/-- Text that does not end in a run lasts as a span up to the run behind it exactly if it has no
such run of its own. -/
theorem spanFrom_eq_iff {n : Nat} (pos : 0 < n) {rest : List Char}
    (stop : ∀ c ∈ rest.head?, c ≠ '\x60') (content : List Char) : ∀ inRun,
      (∀ c ∈ content.getLast?, c ≠ '\x60') → (content = [] → inRun = false) →
      (spanFrom n inRun (content ++ (List.replicate n '\x60' ++ rest)) = some (content, rest) ↔
        ¬ RunFrom n inRun content) := by
  induction content with
  | nil =>
    intro inRun _ outside
    have found : ticks (List.replicate n '\x60' ++ rest) = n := ticks_eq_iff.2 ⟨rest, rfl, stop⟩
    obtain ⟨k, rfl⟩ : ∃ k, n = k + 1 := ⟨n - 1, by omega⟩
    have shown : List.replicate (k + 1) '\x60' ++ rest =
        '\x60' :: (List.replicate k '\x60' ++ rest) := rfl
    refine iff_of_true ?_ id
    rw [outside rfl, List.nil_append, shown, spanFrom, ← shown, if_pos ⟨rfl, found⟩,
      List.drop_left' List.length_replicate]
  | cons c content ih =>
    intro inRun apart _
    have later : ∀ x ∈ content.getLast?, x ≠ '\x60' :=
      fun x hx => apart x (by rw [List.getLast?_cons, hx]; rfl)
    have outside : content = [] → decide (c = '\x60') = false := by
      rintro rfl
      exact decide_eq_false (apart c rfl)
    -- the run at `c` ends in the content, so the closing run does not lengthen it
    have ends : (c :: content).getLast? = some (content.getLast?.getD c) := List.getLast?_cons
    have run := ticks_append (List.replicate n '\x60' ++ rest) ends (apart _ ends)
    rw [List.cons_append, spanFrom, ← List.cons_append, run, RunFrom]
    by_cases here : inRun = false ∧ ticks (c :: content) = n
    · simp [here]
    · rw [if_neg here, or_iff_right here, ← ih _ later outside]
      simp [Option.map_eq_some_iff]

theorem span?_eq_iff {n : Nat} (pos : 0 < n) {c : Char} (content : List Char)
    (start : c ≠ '\x60') (finish : ∀ x ∈ (c :: content).getLast?, x ≠ '\x60') :
    span? (List.replicate n '\x60' ++ ((c :: content) ++ (List.replicate n '\x60' ++ []))) =
      some (c :: content, []) ↔ ¬ HasRun n (c :: content) := by
  have opening : ticks (List.replicate n '\x60' ++
      ((c :: content) ++ (List.replicate n '\x60' ++ []))) = n :=
    ticks_eq_iff.2 ⟨_, rfl, by simpa using start⟩
  unfold span?
  rw [opening, if_neg (by omega), List.drop_left' List.length_replicate,
    spanFrom_eq_iff pos (by simp) _ true finish (by simp), hasRun_iff pos,
    runFrom_cons pos start, runFrom_cons pos start]

theorem HasRun.mem {n : Nat} {cs : List Char} (h : HasRun n cs) (pos : 0 < n) : '\x60' ∈ cs := by
  obtain ⟨front, back, rfl, -⟩ := h
  simp [List.mem_replicate, pos.ne']

/-- What stands in the span of a text: a text with backticks gets a blank on either side. -/
def spanContent (cs : List Char) : List Char :=
  if '\x60' ∈ cs then ' ' :: (cs ++ [' ']) else cs

/-- The span of a text is read as a whole exactly if the text is not empty and has no run of two
backticks. -/
theorem span_codeSpan_iff (s : String) :
    span? (Inline.codeSpan s).toList = some (spanContent s.toList, []) ↔
      s ≠ "" ∧ ¬ HasRun 2 s.toList := by
  unfold Inline.codeSpan spanContent
  by_cases ticked : '\x60' ∈ s.toList
  · have filled : s ≠ "" := by
      rintro rfl
      cases ticked
    -- the blanks on either side belong to no run
    have content : HasRun 2 (' ' :: (s.toList ++ [' '])) ↔ HasRun 2 s.toList := by
      rw [hasRun_iff Nat.two_pos, hasRun_iff Nat.two_pos, runFrom_cons Nat.two_pos (by decide),
        runFrom_concat Nat.two_pos (by decide)]
    have found := span?_eq_iff (n := 2) Nat.two_pos (c := ' ') (s.toList ++ [' '])
      (by decide) (by simp [List.getLast?_cons])
    rw [if_pos (by simpa using ticked), if_pos ticked, and_iff_right filled, ← content, ← found]
    simp [String.toList_append, List.replicate]
  · have none (n : Nat) (pos : 0 < n) : ¬ HasRun n s.toList := fun run => ticked (run.mem pos)
    rw [if_neg (by simpa using ticked), if_neg ticked, and_iff_left (none 2 Nat.two_pos)]
    cases chars : s.toList with
    | nil =>
      rw [String.toList_eq_nil_iff] at chars
      subst chars
      decide
    | cons c cs =>
      rw [chars] at ticked none
      have filled : s ≠ "" := by
        rintro rfl
        cases chars
      have plain : ∀ x ∈ c :: cs, x ≠ '\x60' := fun x hx eq => ticked (eq ▸ hx)
      have found := span?_eq_iff (n := 1) Nat.one_pos cs (plain c (List.mem_cons_self ..))
        fun x hx => plain x (List.mem_of_getLast? hx)
      have whole := found.2 (none 1 Nat.one_pos)
      refine iff_of_true ?_ filled
      rw [String.toList_append, String.toList_append, chars]
      simpa [List.replicate] using whole

/-! ## Fenced blocks -/

/-- A line closes a fence of `n` backticks with as many or more of them, behind three blanks at most
and before nothing but blanks. -/
def closesFence (n : Nat) (line : List Char) : Bool :=
  let mark := line.dropWhile (· = ' ')
  (line.takeWhile (· = ' ')).length ≤ 3 && n ≤ ticks mark &&
    (mark.drop (ticks mark)).all fun c => c = ' ' || c = '\t'

/-- A line opens a fence with three backticks or more; what follows them has none. -/
def opensFence? (line : List Char) : Option (Nat × List Char) :=
  let info := line.drop (ticks line)
  if 3 ≤ ticks line && !info.contains '\x60' then some (ticks line, info) else none

/-- A fenced block: what stands behind its fence, its lines, and the lines after the one that
closes it. -/
structure Fenced where
  info : List Char
  body : List (List Char)
  rest : Option (List (List Char))
deriving DecidableEq

/-- The fenced block that a text starts with; one that no line closes lasts to the end. -/
def fenced? (cs : List Char) : Option Fenced :=
  match linesOf cs with
  | [] => none
  | first :: others =>
    (opensFence? first).map fun (n, info) =>
      { info
        body := others.takeWhile (!closesFence n ·)
        rest := (others.dropWhile (!closesFence n ·)).tail? }

/-- The fence of a block of code. -/
def fence : List Char := List.replicate 3 '\x60'

theorem opensFence?_eq_some {line info : List Char} {n : Nat}
    (h : opensFence? line = some (n, info)) : '\x60' ∉ info ∧ ∀ c ∈ info, c ∈ line := by
  unfold opensFence? at h
  obtain ⟨opens, eq⟩ := Option.ite_none_right_eq_some.1 h
  cases eq
  rw [Bool.and_eq_true] at opens
  exact ⟨by simpa using opens.2, fun c hc => List.mem_of_mem_drop hc⟩

theorem opensFence?_fence {info : List Char} (plain : '\x60' ∉ info) :
    opensFence? (fence ++ info) = some (3, info) := by
  have three : ticks (fence ++ info) = 3 :=
    ticks_eq_iff.2 ⟨info, rfl, fun c hc eq => plain (eq ▸ List.mem_of_mem_head? hc)⟩
  have rest : (fence ++ info).drop 3 = info := List.drop_left' rfl
  unfold opensFence?
  dsimp only
  rw [three, rest]
  simpa using plain

/-- An info has no backticks, and stands in one line. -/
theorem info_of_fenced? {cs info : List Char} {body : List (List Char)}
    {rest : Option (List (List Char))} (h : fenced? cs = some { info, body, rest }) :
    '\x60' ∉ info ∧ '\r' ∉ info ∧ '\n' ∉ info := by
  unfold fenced? at h
  split at h
  · cases h
  next first others lines =>
    obtain ⟨⟨n, read⟩, opens, eq⟩ := Option.map_eq_some_iff.1 h
    cases eq
    obtain ⟨plain, inLine⟩ := opensFence?_eq_some opens
    have line : first ∈ linesOf cs := lines ▸ List.mem_cons_self ..
    obtain ⟨unbroken, single⟩ := mem_linesOf line
    exact ⟨plain, fun mem => unbroken (inLine _ mem), fun mem => single (inLine _ mem)⟩

/-- A block in fences starts with its info; its lines are those of the text, up to the first that
closes its fence. -/
theorem fenced?_fence {info : List Char} (plain : '\x60' ∉ info) (unbroken : '\r' ∉ info)
    (single : '\n' ∉ info) (text : List Char) :
    fenced? (fence ++ info ++ '\n' :: (text ++ '\n' :: fence)) =
      some { info
             body := (endedLines text ++ [fence]).takeWhile (!closesFence 3 ·)
             rest := ((endedLines text ++ [fence]).dropWhile (!closesFence 3 ·)).tail? } := by
  have first : endedLines (fence ++ info) = [fence ++ info] := by
    refine endedLines_plain ?_ ?_
    · exact fun mem => (List.mem_append.1 mem).elim (by decide) unbroken
    · exact fun mem => (List.mem_append.1 mem).elim (by decide) single
  have last : linesOf fence = [fence] := rfl
  unfold fenced?
  rw [linesOf_append, linesOf_append, first, last, List.singleton_append]
  dsimp only
  rw [opensFence?_fence plain]
  rfl

/-- A block in fences is read back exactly if its info stands in one line without backticks and no
line of its text closes it. -/
theorem fenced?_eq_iff (info text : List Char) :
    fenced? (fence ++ info ++ '\n' :: (text ++ '\n' :: fence)) =
        some { info, body := endedLines text, rest := some [] } ↔
      ('\x60' ∉ info ∧ '\r' ∉ info ∧ '\n' ∉ info) ∧
        ∀ line ∈ endedLines text, closesFence 3 line = false := by
  constructor
  · intro read
    obtain ⟨plain, unbroken, single⟩ := info_of_fenced? read
    refine ⟨⟨plain, unbroken, single⟩, fun line mem => ?_⟩
    rw [fenced?_fence plain unbroken single] at read
    have body := congrArg Fenced.body (Option.some.inj read)
    dsimp only at body
    rw [← body] at mem
    simpa using List.mem_takeWhile_imp mem
  · rintro ⟨⟨plain, unbroken, single⟩, lasts⟩
    have all : ∀ line ∈ endedLines text, (!closesFence 3 line) = true := by simpa using lasts
    rw [fenced?_fence plain unbroken single, List.takeWhile_append_of_pos all,
      List.dropWhile_append_of_pos all]
    have stop : [fence].takeWhile (!closesFence 3 ·) = [] ∧
        [fence].dropWhile (!closesFence 3 ·) = [fence] := by decide
    rw [stop.1, stop.2, List.append_nil]
    rfl

end Markdown

namespace Element

open Markdown

/-- The text that a block writes as a span of code. -/
def spanText? : Element → Option String
  | .code c => if c.isInline then some c.value else none
  | .text p =>
    if p.emphasis = .code ∧ p.value ≠ "" ∧ setAlign? p.align = none then some p.value else none
  | _ => none

/-- The block that is written between fences. -/
def fencedCode? : Element → Option Code
  | .code c => if c.isInline then none else some c
  | _ => none

theorem markdown_span {e : Element} {s : String} (h : e.spanText? = some s) :
    e.markdown = Inline.codeSpan s := by
  cases e with
  | code c =>
    obtain ⟨spans, eq⟩ := Option.ite_none_right_eq_some.1 h
    cases eq
    exact if_pos spans
  | text p =>
    obtain ⟨⟨emphasis, filled, align⟩, eq⟩ := Option.ite_none_right_eq_some.1 h
    cases eq
    show p.markdown = _
    unfold Phrase.markdown
    rw [if_neg (by simpa using filled), align, emphasis]
    rfl
  | _ => cases h

theorem markdown_fenced {e : Element} {c : Code} (h : e.fencedCode? = some c) :
    e.markdown.toList =
      fence ++ (c.language.getD "").toList ++ '\n' :: (c.value.toList ++ '\n' :: fence) := by
  cases e with
  | code d =>
    obtain ⟨fenced, eq⟩ := Option.ite_none_left_eq_some.1 h
    cases eq
    show c.markdown.toList = _
    unfold Code.markdown
    rw [if_neg fenced]
    simp [String.toList_append, fence, List.replicate]
  | _ => cases h

/-- A span of code, of a block or of a text set off as code, is read back as a whole exactly if its
text is not empty and has no run of two backticks; a fenced block exactly if its language stands in
one line without backticks and no line of its text closes the fence. -/
theorem code_read_iff (e : Element) :
    (∀ s, e.spanText? = some s →
      (span? e.markdown.toList = some (spanContent s.toList, []) ↔
        s ≠ "" ∧ ¬ HasRun 2 s.toList)) ∧
    ∀ c, e.fencedCode? = some c →
      (fenced? e.markdown.toList =
          some { info := (c.language.getD "").toList, body := endedLines c.value.toList,
                 rest := some [] } ↔
        ('\x60' ∉ (c.language.getD "").toList ∧ '\r' ∉ (c.language.getD "").toList ∧
          '\n' ∉ (c.language.getD "").toList) ∧
        ∀ line ∈ endedLines c.value.toList, closesFence 3 line = false) := by
  constructor
  · intro s h
    rw [markdown_span h]
    exact span_codeSpan_iff s
  · intro c h
    rw [markdown_fenced h]
    exact fenced?_eq_iff _ _

/-- A span around a backtick, and a block with lines that look like fences. -/
theorem code_read_ticks :
    ¬ HasRun 2 "a`b".toList ∧
      fenced? (markdown (.code { value := "``\n    ```\n```x", language := some "md" })).toList =
        some { info := "md".toList, body := ["``".toList, "    ```".toList, "```x".toList],
               rest := some [] } := by
  have span := (code_read_iff (.code { value := "a`b", isInline := true })).1 "a`b" rfl
  have fenced := (code_read_iff (.code { value := "``\n    ```\n```x", language := some "md" })).2
    { value := "``\n    ```\n```x", language := some "md" } rfl
  exact ⟨(span.1 (by decide)).2, fenced.2 (by decide)⟩

/-- A run of two backticks ends the span that it stands in, a line of three backticks the block, and
an empty span is none. -/
theorem code_cut :
    span? (markdown (.code { value := "a``b", isInline := true })).toList =
        some (" a".toList, "b ``".toList) ∧
      HasRun 2 (spanContent "a``b".toList) ∧
      markdown (.text { value := "a``b", emphasis := .code }) = "`` a``b ``" ∧
      fenced? (markdown (.code { value := "```" })).toList =
        some { info := [], body := [], rest := some [fence] } ∧
      fence ∈ endedLines "```".toList ∧ closesFence 3 fence = true ∧
      span? (markdown (.code { value := "", isInline := true })).toList = none := by
  refine ⟨by decide, ⟨" a".toList, "b ".toList, by decide, by simp, by simp⟩, by decide⟩

end Element

end ProfileReadme
