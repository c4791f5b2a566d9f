/-
Where the destinations of generated images end. A reader of markdown takes a destination up to the
first blank or control, or to the first parenthesis that closes none of its own. Which texts of a
block make this the end of the generated URL is told exactly: all parentheses of what is sent to a
service, in their order, have to be balanced, and the color of a badge, which is not encoded, must
not hold a blank.
-/
import ProfileReadme.Markdown.Block
import ProfileReadme.Proofs.Url.Delimiters

namespace ProfileReadme

namespace Markdown

open Url

/-! ## Destinations -/

/-- How many parentheses are open after a text, from `depth` on; none if one closes that is not
open. -/
def openedFrom : Nat → List Char → Option Nat
  | depth, [] => some depth
  | depth, c :: cs =>
    if c = '(' then openedFrom (depth + 1) cs
    else if c = ')' then if depth = 0 then none else openedFrom (depth - 1) cs
    else openedFrom depth cs

def Balanced (cs : List Char) : Prop := openedFrom 0 cs = some 0

instance (cs : List Char) : Decidable (Balanced cs) :=
  inferInstanceAs (Decidable (openedFrom 0 cs = some 0))

/-- The punctuation of ASCII, which a backslash can escape. -/
def isPunctuation (c : Char) : Bool :=
  let n := c.toNat
  (33 ≤ n && n ≤ 47) || (58 ≤ n && n ≤ 64) || (91 ≤ n && n ≤ 96) || (123 ≤ n && n ≤ 126)

/-- The destination that a text starts with, from `depth` open parentheses on; `escaped` if a
backslash has just been read. -/
def destinationFrom : Nat → Bool → List Char → List Char
  | _, _, [] => []
  | depth, escaped, c :: cs =>
    if endsDestination c then []
    else if escaped && isPunctuation c then c :: destinationFrom depth false cs
    else if c = '(' then c :: destinationFrom (depth + 1) false cs
    else if c = ')' then if depth = 0 then [] else c :: destinationFrom (depth - 1) false cs
    else c :: destinationFrom depth (c = '\\') cs

/-- The destination that a reader takes from a text behind `](`. -/
def destination (cs : List Char) : List Char := destinationFrom 0 false cs

/-- Other characters than parentheses do not matter to balance. -/
theorem openedFrom_filter (cs : List Char) : ∀ depth,
    openedFrom depth (cs.filter isParen) = openedFrom depth cs := by
  induction cs with
  | nil => exact fun _ => rfl
  | cons c cs ih =>
    intro depth
    rw [List.filter_cons]
    by_cases opens : c = '('
    · subst opens
      exact ih (depth + 1)
    · by_cases closes : c = ')'
      · subst closes
        cases depth with
        | zero => rfl
        | succ depth => exact ih depth
      · have other : isParen c = false := by simp [isParen, opens, closes]
        rw [other, if_neg Bool.false_ne_true, ih depth, openedFrom, if_neg opens, if_neg closes]

theorem balanced_filter (cs : List Char) : Balanced (cs.filter isParen) ↔ Balanced cs := by
  unfold Balanced
  rw [openedFrom_filter]

theorem destinationFrom_clear (cs : List Char) : ∀ depth escaped,
    ∀ c ∈ destinationFrom depth escaped cs, endsDestination c = false := by
  induction cs with
  | nil => exact fun _ _ => nofun
  | cons d cs ih =>
    intro depth escaped c hc
    unfold destinationFrom at hc
    by_cases ends : endsDestination d = true
    · rw [if_pos ends] at hc
      cases hc
    · have keeps {depth escaped} (hc : c ∈ d :: destinationFrom depth escaped cs) :
          endsDestination c = false := by
        rcases List.mem_cons.1 hc with rfl | hc
        · simpa using ends
        · exact ih _ _ c hc
      rw [if_neg ends] at hc
      split at hc
      · exact keeps hc
      · split at hc
        · exact keeps hc
        · split at hc
          · split at hc
            · cases hc
            · exact keeps hc
          · exact keeps hc

/-- Without backslashes a text in parentheses is taken as a whole if and only if nothing in it ends
a destination and its own parentheses are balanced. -/
theorem destinationFrom_eq_iff {cs : List Char} (plain : '\\' ∉ cs) (rest : List Char) :
    ∀ depth, destinationFrom depth false (cs ++ ')' :: rest) = cs ↔
      (∀ c ∈ cs, endsDestination c = false) ∧ openedFrom depth cs = some 0 := by
  induction cs with
  | nil =>
    intro depth
    cases depth with
    | zero => exact iff_of_true rfl ⟨nofun, rfl⟩
    | succ depth => exact iff_of_false (List.cons_ne_nil _ _) fun h => by cases h.2
  | cons c cs ih =>
    intro depth
    rw [List.mem_cons, not_or] at plain
    have ih := ih plain.2
    rw [List.forall_mem_cons]
    cases ends : endsDestination c with
    | true =>
      refine iff_of_false ?_ fun h => by cases h.1.1
      simp [destinationFrom, ends]
    | false =>
      by_cases opens : c = '('
      · subst opens
        simp [destinationFrom, openedFrom, ends, ih]
      · by_cases closes : c = ')'
        · subst closes
          by_cases none : depth = 0
          · simp [destinationFrom, openedFrom, ends, none]
          · simp [destinationFrom, openedFrom, ends, none, ih]
        · simp [destinationFrom, openedFrom, ends, opens, closes, ih, Ne.symm plain.1]

end Markdown

/-! ## Generated images -/

namespace Element

open Markdown Url

/-- A text of a block that stands in a generated URL: encoded, or as it is. -/
inductive Sent where
  | encoded (s : String)
  | raw (s : String)
deriving DecidableEq

def Sent.chars : Sent → List Char
  | .encoded s => s.toList
  | .raw s => s.toList

/-- What is left of a text that a destination minds. -/
def Sent.delimiters : Sent → List Char
  | .encoded s => parens s
  | .raw s => Url.delimiters s

/-- The generated image of a block: of badges, of social links that show one, of animations with
something to type, and of the cards of an account. -/
def generated? : Element → Option String
  | .badge b => some b.imageUrl
  | .social s => if s.showIcon then some s.imageUrl else none
  | .typing t => if t.texts.isEmpty then none else some t.imageUrl
  | .statsCard c => some c.imageUrl
  | .graph g => some g.imageUrl
  | _ => none

/-- The texts of a block that its generated URL holds, in order. -/
def sent : Element → List Sent
  | .badge b =>
    (b.label :: b.message.toList).map .encoded ++ [.raw b.color] ++
      (b.logo.toList ++ b.logoColor.toList ++ b.labelColor.toList).map .encoded
  | .social s => [.encoded (if s.showLabel then s.text else s.platform)]
  | .typing t => t.texts.map .encoded
  | .statsCard c => [.encoded c.username, .encoded c.theme]
  | .graph g => [.encoded g.username, .encoded g.theme]
  | _ => []

theorem Badge.delimiters_imageUrl (b : Badge) :
    Url.delimiters b.imageUrl = (sent (.badge b)).flatMap Sent.delimiters := by
  have style : parens (Value.shown (Named.write b.style)) = [] := by
    cases b.style <;> decide
  unfold Badge.imageUrl
  rw [delimiters_badge]
  simp [sent, Sent.delimiters, style, parens_ofText, List.flatMap_map]

/-- The text of a link is empty only if its platform is. -/
theorem Social.text_filled (s : Social) : Text.filledOr (some s.text) s.platform = s.text := by
  rw [Text.filledOr_some]
  by_cases empty : s.text = ""
  · rw [if_pos empty]
    unfold Social.text Text.filledOr at *
    cases label : Text.filled? s.label with
    | none => rfl
    | some l =>
      rw [label] at empty
      exact absurd empty (Text.ne_empty_of_filled? label).2
  · rw [if_neg empty]

theorem Social.delimiters_imageUrl (s : Social) :
    Url.delimiters s.imageUrl = (sent (.social s)).flatMap Sent.delimiters := by
  unfold Social.imageUrl
  rw [delimiters_socialBadge]
  have text : Text.filledOr (if s.showLabel then some s.text else none) s.platform =
      if s.showLabel then s.text else s.platform := by
    cases s.showLabel with
    | false => rfl
    | true => exact s.text_filled
  rw [text]
  exact (List.append_nil _).symm

theorem Typing.delimiters_imageUrl (t : Typing) :
    Url.delimiters t.imageUrl = (sent (.typing t)).flatMap Sent.delimiters := by
  unfold Typing.imageUrl
  rw [delimiters_typing]
  simp [sent, Sent.delimiters, List.flatMap_map]

/-- Of all that a destination minds, a generated URL holds what is left of the texts sent. -/
theorem delimiters_generated {e : Element} {u : String} (h : e.generated? = some u) :
    Url.delimiters u = e.sent.flatMap Sent.delimiters := by
  cases e with
  | badge b =>
    cases h
    exact b.delimiters_imageUrl
  | social s =>
    obtain ⟨-, eq⟩ := Option.ite_none_right_eq_some.1 h
    exact Option.some.inj eq ▸ s.delimiters_imageUrl
  | typing t =>
    obtain ⟨-, eq⟩ := Option.ite_none_left_eq_some.1 h
    exact Option.some.inj eq ▸ t.delimiters_imageUrl
  | statsCard c =>
    cases h
    exact (delimiters_statsCard ..).trans (by simp [sent, Sent.delimiters])
  | graph g =>
    cases h
    exact (delimiters_contributionGraph ..).trans (by simp [sent, Sent.delimiters, Value.shown])
  | _ => cases h

theorem embed_holds (alt src : String) :
    ∃ before after, embed alt src = before ++ "](" ++ src ++ ")" ++ after :=
  ⟨"![" ++ Inline.escapeBrackets alt, "", by simp [embed]⟩

/-- The markdown of a block with a generated image holds its URL as a destination. -/
theorem markdown_generated {e : Element} {u : String} (h : e.generated? = some u) :
    ∃ before after, e.markdown = before ++ "](" ++ u ++ ")" ++ after := by
  cases e with
  | badge b =>
    cases h
    obtain ⟨before, after, embedded⟩ := embed_holds b.label b.imageUrl
    show ∃ before after, linked b.link (embed b.label b.imageUrl) = _
    rw [embedded]
    unfold linked
    cases Text.filled? b.link with
    | none => exact ⟨before, after, rfl⟩
    | some href =>
      exact ⟨"[" ++ before, after ++ "](" ++ href ++ ")", by simp [linkTo, String.append_assoc]⟩
  | social s =>
    obtain ⟨shown, eq⟩ := Option.ite_none_right_eq_some.1 h
    obtain ⟨before, after, embedded⟩ := embed_holds s.text u
    refine ⟨"[" ++ before, after ++ "](" ++ s.url ++ ")", ?_⟩
    show linkTo (if s.showIcon then embed s.text s.imageUrl else s.text) s.url = _
    rw [if_pos shown, Option.some.inj eq, embedded]
    simp [linkTo, String.append_assoc]
  | typing t =>
    obtain ⟨shown, eq⟩ := Option.ite_none_left_eq_some.1 h
    obtain ⟨before, after, embedded⟩ := embed_holds "Typing SVG" u
    refine ⟨before, after, ?_⟩
    show (if t.texts.isEmpty then "" else embed "Typing SVG" t.imageUrl) = _
    rw [if_neg shown, Option.some.inj eq, embedded]
  | statsCard c =>
    cases h
    exact embed_holds c.alt c.imageUrl
  | graph g =>
    cases h
    exact ⟨"![" ++ g.alt, "", by simp [Element.markdown, Graph.markdown]⟩
  | _ => cases h

/-- Delimiters other than parentheses stand in a generated URL exactly if they stand in a text that
is sent as it is. -/
theorem clear_iff {e : Element} {u : String} (h : e.generated? = some u) {p : Char → Bool}
    (delimits : ∀ c, p c = true → isDelimiter c = true) (opens : p '(' = false)
    (closes : p ')' = false) :
    (∀ c ∈ u.toList, p c = false) ↔ ∀ s, .raw s ∈ e.sent → ∀ c ∈ s.toList, p c = false := by
  have found (s : String) : (∀ c ∈ s.toList, p c = false) ↔
      ∀ c ∈ Url.delimiters s, p c = false := by
    constructor
    · exact fun all c hc => all c (List.mem_filter.1 hc).1
    · intro all c hc
      by_contra marked
      rw [Bool.not_eq_false] at marked
      have := all c (List.mem_filter.2 ⟨hc, delimits c marked⟩)
      exact Bool.false_ne_true (this.symm.trans marked)
  rw [found, delimiters_generated h, List.forall_mem_flatMap]
  constructor
  · intro all s hs
    exact (found s).2 (all (.raw s) hs)
  · intro all t ht
    cases t with
    | raw s => exact (found s).1 (all s ht)
    | encoded s =>
      -- only parentheses are left of it
      intro c hc
      have paren : isParen c = true := (List.mem_filter.1 hc).2
      simp only [isParen, Bool.or_eq_true, decide_eq_true_eq] at paren
      rcases paren with rfl | rfl
      · exact opens
      · exact closes

/-- Of the parentheses of a generated URL, all come from the texts sent, in their order. -/
theorem balanced_iff {e : Element} {u : String} (h : e.generated? = some u) :
    Balanced u.toList ↔ Balanced (e.sent.flatMap Sent.chars) := by
  have each (t : Sent) : t.delimiters.filter isParen = t.chars.filter isParen := by
    cases t with
    | encoded s => simp [Sent.delimiters, Sent.chars, parens]
    | raw s => exact parens_delimiters s
  rw [← balanced_filter, ← balanced_filter (e.sent.flatMap _)]
  have sent : u.toList.filter isParen = (e.sent.flatMap Sent.chars).filter isParen := by
    show parens u = _
    rw [← parens_delimiters, delimiters_generated h, List.filter_flatMap, List.filter_flatMap]
    exact congrArg (e.sent.flatMap ·) (funext each)
  rw [sent]

/-- A block with a generated image holds its URL as a destination. The URL has a blank exactly if a
text sent as it is, the color of a badge, has one, and its parentheses are balanced exactly if
those of all texts sent are, taken together in the order of the URL. The destination ends with the
URL exactly if no blank or control of ASCII stands in such a color and the parentheses are
balanced; a backslash in a color could escape what follows it and is left aside. -/
theorem generated_destination {e : Element} {u : String} (h : e.generated? = some u) :
    (∃ before after, e.markdown = before ++ "](" ++ u ++ ")" ++ after) ∧
      ((∀ c ∈ u.toList, Text.isBlank c = false) ↔
        ∀ s, .raw s ∈ e.sent → ∀ c ∈ s.toList, Text.isBlank c = false) ∧
      (Balanced u.toList ↔ Balanced (e.sent.flatMap Sent.chars)) ∧
      ((∀ s, .raw s ∈ e.sent → '\\' ∉ s.toList) → ∀ rest,
        (destination (u.toList ++ ')' :: rest) = u.toList ↔
          (∀ s, .raw s ∈ e.sent → ∀ c ∈ s.toList, endsDestination c = false) ∧
            Balanced (e.sent.flatMap Sent.chars))) := by
  have blanks := clear_iff h (p := Text.isBlank) (fun c hc => by simp [isDelimiter, hc])
    (by decide) (by decide)
  have ends := clear_iff h (p := endsDestination) (fun c hc => by simp [isDelimiter, hc])
    (by decide) (by decide)
  have escapes := clear_iff h (p := (· = '\\')) (fun c hc => by simp_all [isDelimiter])
    (by decide) (by decide)
  refine ⟨markdown_generated h, blanks, balanced_iff h, fun plain rest => ?_⟩
  have unescaped : '\\' ∉ u.toList := by
    intro mem
    have clear := escapes.2 fun s hs c hc => decide_eq_false fun eq => plain s hs (eq ▸ hc)
    exact of_decide_eq_false (clear _ mem) rfl
  rw [← ends, ← balanced_iff h]
  exact destinationFrom_eq_iff unescaped rest 0

/-- A badge whose label calls a function. -/
def callBadge : Element := .badge { label := "f(x)", color := "blue" }

theorem callBadge_destination :
    callBadge.generated? = some "https://img.shields.io/badge/f(x)-blue?style=for-the-badge" ∧
      ∀ rest, destination ("https://img.shields.io/badge/f(x)-blue?style=for-the-badge".toList ++
        ')' :: rest) = "https://img.shields.io/badge/f(x)-blue?style=for-the-badge".toList := by
  have served :
      callBadge.generated? = some "https://img.shields.io/badge/f(x)-blue?style=for-the-badge" := by
    decide
  have colors : ∀ s, .raw s ∈ callBadge.sent → s = "blue" := by
    intro s hs
    simpa [callBadge, sent] using hs
  obtain ⟨-, -, -, reads⟩ := generated_destination served
  refine ⟨served, fun rest => (reads ?_ rest).2 ⟨?_, by decide⟩⟩
  · intro s hs
    rw [colors s hs]
    decide
  · intro s hs c hc
    have clear : "blue".toList.all (fun c => !endsDestination c) = true := by decide
    rw [colors s hs] at hc
    simpa using List.all_eq_true.1 clear c hc

/-- A smile in a label ends the destination in the middle of the URL, and so does the blank of a
color. -/
theorem smile_cut :
    (generated? (.badge { label := ":)" }) =
        some "https://img.shields.io/badge/%3A)-0969da?style=for-the-badge" ∧
      Element.markdown (.badge { label := ":)" }) =
        "![:)](https://img.shields.io/badge/%3A)-0969da?style=for-the-badge)" ∧
      ¬ Balanced "https://img.shields.io/badge/%3A)-0969da?style=for-the-badge".toList ∧
      destination "https://img.shields.io/badge/%3A)-0969da?style=for-the-badge)".toList =
        "https://img.shields.io/badge/%3A".toList) ∧
    generated? (.badge { label := "Lean", color := "light gray" }) =
      some "https://img.shields.io/badge/Lean-light gray?style=for-the-badge" := by
  decide

end Element

end ProfileReadme
