/-
How the tags of inline markup nest. A line is converted in four rounds, each for one kind of marks,
and each round sets off the texts between the pairs of its marks, whatever tags of earlier rounds
they hold. So the tags of one kind never stand inside each other; and all tags together nest exactly
if no round sets off a text that holds only one end of an earlier element.
-/
import ProfileReadme.Proofs.Text.Emphasis
import ProfileReadme.Proofs.Text.Join
import Mathlib.Data.List.Find

namespace ProfileReadme.Inline

/-! ## Tags on a stack -/

/-- A tag that opens or closes an element. -/
structure Tag where
  name : String
  closes : Bool
deriving DecidableEq

/-- The names of the elements left open by some tags, the last one first; none if a tag closes
another element than the last one that is open. -/
def openAfter : List String → List Tag → Option (List String)
  | names, [] => some names
  | names, ⟨name, false⟩ :: tags => openAfter (name :: names) tags
  | [], ⟨_, true⟩ :: _ => none
  | last :: names, ⟨name, true⟩ :: tags => if last = name then openAfter names tags else none

/-- Each tag that closes an element closes the last one that is open, and all are closed. -/
def Nested (tags : List Tag) : Prop := openAfter [] tags = some []

instance (tags : List Tag) : Decidable (Nested tags) :=
  inferInstanceAs (Decidable (openAfter [] tags = some []))

variable {names : List String} {tags more : List Tag} {name : String}

theorem openAfter_append (tags more : List Tag) : ∀ names,
    openAfter names (tags ++ more) = (openAfter names tags).bind (openAfter · more) := by
  induction tags with
  | nil => exact fun _ => rfl
  | cons tag tags ih =>
    obtain ⟨name, closes⟩ := tag
    intro names
    cases closes with
    | false => exact ih (name :: names)
    | true =>
      cases names with
      | nil => rfl
      | cons last names =>
        simp only [List.cons_append, openAfter]
        split
        · exact ih names
        · rfl

/-- What is open further out is not touched by tags that find their own. -/
theorem openAfter_within (outer : List String) (tags : List Tag) : ∀ {names left : List String},
    openAfter names tags = some left → openAfter (names ++ outer) tags = some (left ++ outer) := by
  induction tags with
  | nil =>
    rintro names left h
    cases h
    rfl
  | cons tag tags ih =>
    obtain ⟨name, closes⟩ := tag
    rintro names left h
    cases closes with
    | false => exact ih h
    | true =>
      cases names with
      | nil => cases h
      | cons last names =>
        obtain ⟨same, h⟩ := Option.ite_none_right_eq_some.1 h
        rw [List.cons_append, openAfter, if_pos same]
        exact ih h

/-- Tags of other names cannot close an element, nor what is open around it. -/
theorem openAfter_barrier (name : String) (outer : List String) (tags : List Tag)
    (other : ∀ t ∈ tags, t.name ≠ name) : ∀ inner,
      openAfter (inner ++ name :: outer) tags =
        (openAfter inner tags).map (· ++ name :: outer) := by
  induction tags with
  | nil => exact fun _ => rfl
  | cons tag tags ih =>
    rw [List.forall_mem_cons] at other
    obtain ⟨tagName, closes⟩ := tag
    intro inner
    cases closes with
    | false => exact ih other.2 (tagName :: inner)
    | true =>
      cases inner with
      | nil => exact if_neg (Ne.symm other.1)
      | cons last inner =>
        simp only [List.cons_append, openAfter]
        split
        · exact ih other.2 inner
        · rfl

/-- What is left open has been opened. -/
theorem mem_openAfter (tags : List Tag) : ∀ {names left : List String},
    openAfter names tags = some left → ∀ x ∈ left, x ∈ names ∨ ∃ t ∈ tags, t.name = x := by
  induction tags with
  | nil =>
    rintro names left h x hx
    cases h
    exact .inl hx
  | cons tag tags ih =>
    obtain ⟨name, closes⟩ := tag
    rintro names left h x hx
    have later {names : List String} (h : openAfter names tags = some left) :
        x ∈ names ∨ ∃ t ∈ ⟨name, closes⟩ :: tags, t.name = x :=
      (ih h x hx).imp_right fun ⟨t, ht, eq⟩ => ⟨t, List.mem_cons_of_mem _ ht, eq⟩
    cases closes with
    | false =>
      rcases later h with mem | opened
      · rcases List.mem_cons.1 mem with rfl | mem
        · exact .inr ⟨_, List.mem_cons_self .., rfl⟩
        · exact .inl mem
      · exact .inr opened
    | true =>
      cases names with
      | nil => cases h
      | cons last names =>
        obtain ⟨-, h⟩ := Option.ite_none_right_eq_some.1 h
        exact (later h).imp_left (List.mem_cons_of_mem last)

/-- An element is closed where it should be exactly if the tags in it nest. -/
theorem openAfter_element (other : ∀ t ∈ tags, t.name ≠ name) (names : List String) :
    openAfter names (⟨name, false⟩ :: tags ++ ⟨name, true⟩ :: more) = some [] ↔
      Nested tags ∧ openAfter names more = some [] := by
  have walk : openAfter names (⟨name, false⟩ :: tags ++ ⟨name, true⟩ :: more) =
      ((openAfter [] tags).map (· ++ name :: names)).bind
        (openAfter · (⟨name, true⟩ :: more)) := by
    rw [← openAfter_barrier name names tags other [], ← openAfter_append]
    rfl
  rw [walk]
  unfold Nested
  cases inside : openAfter [] tags with
  | none => exact iff_of_false nofun fun h => nomatch h.1
  | some left =>
    cases left with
    | nil =>
      rw [and_iff_right rfl]
      show (if name = name then openAfter names more else none) = some [] ↔ _
      rw [if_pos rfl]
    | cons last left =>
      -- the tags in it leave an element of another name open
      have apart : last ≠ name := by
        rcases mem_openAfter tags inside last (List.mem_cons_self ..) with none | ⟨t, ht, rfl⟩
        · cases none
        · exact other t ht
      refine iff_of_false ?_ fun h => nomatch h.1
      show (if last = name then _ else none) ≠ some []
      rw [if_neg apart]
      exact nofun

/-! ## Pairs set off -/

/-- Tags of a text in which some parts, given by the tags that each holds, have been set off as
elements of a name. -/
inductive SetOff (name : String) : List (List Tag) → List Tag → List Tag → Prop
  | nil : SetOff name [] [] []
  | keep {parts : List (List Tag)} {before after : List Tag} (tags : List Tag)
      (rest : SetOff name parts before after) : SetOff name parts (tags ++ before) (tags ++ after)
  | element {parts : List (List Tag)} {before after : List Tag} (part : List Tag)
      (rest : SetOff name parts before after) :
      SetOff name (part :: parts) (part ++ before)
        (⟨name, false⟩ :: part ++ ⟨name, true⟩ :: after)

variable {parts : List (List Tag)} {before after : List Tag}

/-- Set-off parts keep the nesting of a text exactly if each of them nests. -/
theorem SetOff.openAfter_iff (h : SetOff name parts before after)
    (other : ∀ t ∈ before, t.name ≠ name) : ∀ names,
      openAfter names after = some [] ↔
        openAfter names before = some [] ∧ ∀ part ∈ parts, Nested part := by
  induction h with
  | nil => simp
  | keep tags rest ih =>
    intro names
    rw [openAfter_append, openAfter_append]
    cases openAfter names tags with
    | none => exact iff_of_false nofun fun h => nomatch h.1
    | some left => exact ih (fun t ht => other t (List.mem_append_right _ ht)) left
  | @element parts before after part rest ih =>
    intro names
    have inside := fun t ht => other t (List.mem_append_left before ht)
    have ih := ih (fun t ht => other t (List.mem_append_right _ ht)) names
    rw [openAfter_element inside, ih, List.forall_mem_cons, openAfter_append]
    constructor
    · rintro ⟨nested, whole, all⟩
      have passed : openAfter names part = some names := openAfter_within names part nested
      exact ⟨by rw [passed]; exact whole, nested, all⟩
    · rintro ⟨whole, nested, all⟩
      have passed : openAfter names part = some names := openAfter_within names part nested
      rw [passed] at whole
      exact ⟨nested, whole, all⟩

/-- The tags of the name are those of the parts set off, one pair after the other. -/
theorem SetOff.own (h : SetOff name parts before after) (other : ∀ t ∈ before, t.name ≠ name) :
    after.filter (·.name = name) =
      (List.replicate parts.length [⟨name, false⟩, ⟨name, true⟩]).flatten := by
  have none {tags : List Tag} (other : ∀ t ∈ tags, t.name ≠ name) :
      tags.filter (·.name = name) = [] :=
    List.filter_eq_nil_iff.2 fun t ht => by simpa using other t ht
  induction h with
  | nil => rfl
  | keep tags rest ih =>
    rw [List.forall_mem_append] at other
    rw [List.filter_append, none other.1, ih other.2]
    rfl
  | element part rest ih =>
    rw [List.forall_mem_append] at other
    simp [List.filter_append, none other.1, ih other.2, List.replicate_succ]

/-- Tags of other names stay as they are. -/
theorem SetOff.others (h : SetOff name parts before after) {p : Tag → Bool}
    (skips : ∀ t : Tag, t.name = name → p t = false) : after.filter p = before.filter p := by
  induction h with
  | nil => rfl
  | keep tags rest ih => rw [List.filter_append, List.filter_append, ih]
  | element part rest ih =>
    have opening := skips ⟨name, false⟩ rfl
    have closing := skips ⟨name, true⟩ rfl
    simp [List.filter_append, opening, closing, ih]

theorem SetOff.mem (h : SetOff name parts before after) {t : Tag} (ht : t ∈ after) :
    t.name = name ∨ t ∈ before := by
  induction h with
  | nil => cases ht
  | keep tags rest ih =>
    rcases List.mem_append.1 ht with here | later
    · exact .inr (List.mem_append_left _ here)
    · exact (ih later).imp_right (List.mem_append_right tags)
  | element part rest ih =>
    rcases List.mem_cons.1 ht with rfl | ht
    · exact .inl rfl
    · rcases List.mem_append.1 ht with here | ht
      · exact .inr (List.mem_append_left _ here)
      · rcases List.mem_cons.1 ht with rfl | later
        · exact .inl rfl
        · exact (ih later).imp_right (List.mem_append_right part)

/-! ## Tags in a text -/

/-- The elements of emphases. -/
def elementNames : List String := ["strong", "em", "code", "del"]

def Tag.text (t : Tag) : List Char :=
  ((if t.closes then "</" else "<") ++ t.name ++ ">").toList

def knownTags : List Tag := elementNames.flatMap fun name => [⟨name, false⟩, ⟨name, true⟩]

/-- The tag of an emphasis that a text starts with. -/
def tagAt? (cs : List Char) : Option Tag := knownTags.find? (·.text.isPrefixOf cs)

/-- The tags of emphases in a text, from left to right. -/
def tagsOf : List Char → List Tag
  | [] => []
  | c :: cs => (tagAt? (c :: cs)).toList ++ tagsOf cs

/-- A character that no tag has inside it: a bracket that opens a tag, or a mark. -/
def isEdge (c : Char) : Bool := c = '<' || c ∈ markChars

theorem edge_not_mem_tail {d : Char} (edge : isEdge d = true) :
    ∀ t ∈ knownTags, d ∉ t.text.tail := by
  have apart : ∀ t ∈ knownTags, (t.text.tail.all fun c => !isEdge c) = true := by decide
  intro t ht mem
  simpa [edge] using List.all_eq_true.1 (apart t ht) d mem

/-- No tag reaches across the start of another one, or across a mark. -/
theorem tagAt?_cut {d : Char} (edge : isEdge d = true) (c : Char) (front back : List Char) :
    tagAt? (c :: front ++ d :: back) = tagAt? (c :: front) := by
  refine List.find?_congr fun t ht => Bool.eq_iff_iff.2 ?_
  rw [List.isPrefixOf_iff_prefix, List.isPrefixOf_iff_prefix]
  constructor
  · rintro ⟨rest, same⟩
    obtain none | ⟨left, within, -⟩ := Text.cut_piece (edge_not_mem_tail edge t ht) same
    · cases none
    · exact ⟨left, within.symm⟩
  · exact fun starts => starts.trans (List.prefix_append _ _)

theorem tagsOf_cut {d : Char} (edge : isEdge d = true) (front back : List Char) :
    tagsOf (front ++ d :: back) = tagsOf front ++ tagsOf (d :: back) := by
  induction front with
  | nil => rfl
  | cons c front ih =>
    have here := tagAt?_cut edge c front back
    rw [List.cons_append] at here ⊢
    rw [tagsOf, tagsOf, here, ih, List.append_assoc]

theorem Tag.text_eq {t : Tag} (ht : t ∈ knownTags) : ∃ cs, t.text = '<' :: cs := by
  have opens : ∀ t ∈ knownTags, t.text = '<' :: t.text.tail := by decide
  exact ⟨_, opens t ht⟩

theorem tagAt?_other {c : Char} (other : c ≠ '<') (cs : List Char) : tagAt? (c :: cs) = none := by
  refine List.find?_eq_none.2 fun t ht starts => ?_
  obtain ⟨rest, text⟩ := Tag.text_eq ht
  rw [text, List.isPrefixOf_iff_prefix, List.cons_prefix_cons] at starts
  exact other starts.1.symm

theorem tagsOf_other {c : Char} (other : c ≠ '<') (cs : List Char) :
    tagsOf (c :: cs) = tagsOf cs := by
  rw [tagsOf, tagAt?_other other]
  rfl

theorem tagsOf_tag {t : Tag} (ht : t ∈ knownTags) (cs : List Char) :
    tagsOf (t.text ++ cs) = t :: tagsOf cs := by
  have cases : t ∈ [⟨"strong", false⟩, ⟨"strong", true⟩, ⟨"em", false⟩, ⟨"em", true⟩,
    ⟨"code", false⟩, ⟨"code", true⟩, ⟨"del", false⟩, ⟨"del", true⟩] := ht
  simp only [List.mem_cons, List.not_mem_nil, or_false] at cases
  rcases cases with rfl | rfl | rfl | rfl | rfl | rfl | rfl | rfl <;> rfl

/-- A tag behind a text is read whatever the text is. -/
theorem tagsOf_append_tag {t : Tag} (ht : t ∈ knownTags) (front back : List Char) :
    tagsOf (front ++ (t.text ++ back)) = tagsOf front ++ t :: tagsOf back := by
  obtain ⟨rest, text⟩ := Tag.text_eq ht
  have cut := tagsOf_cut (d := '<') rfl front (rest ++ back)
  rw [← List.cons_append, ← text] at cut
  rw [cut, tagsOf_tag ht]

theorem tagsOf_plain {cs : List Char} (plain : '<' ∉ cs) : tagsOf cs = [] := by
  induction cs with
  | nil => rfl
  | cons c cs ih =>
    rw [List.mem_cons, not_or] at plain
    rw [tagsOf_other (Ne.symm plain.1), ih plain.2]

/-! ## One round -/

section

variable {m : Char} {ms : List Char}

theorem tagsOf_marks {mark : List Char} (marks : ∀ x ∈ mark, x ∈ markChars) (cs : List Char) :
    tagsOf (mark ++ cs) = tagsOf cs := by
  induction mark with
  | nil => rfl
  | cons x mark ih =>
    rw [List.forall_mem_cons] at marks
    have other : x ≠ '<' := by
      rintro rfl
      exact absurd marks.1 (by decide)
    rw [List.cons_append, tagsOf_other other, ih marks.2]

/-- A round sets off the texts between its pairs of marks, and does nothing else to the tags. -/
theorem convertFrom_setOff (marks : ∀ x ∈ m :: ms, x ∈ markChars) {name : String}
    (known : name ∈ elementNames) (cs : List Char) :
    SetOff name ((pairsFrom (m :: ms) 0 cs).map tagsOf) (tagsOf cs)
      (tagsOf (convertFrom (m :: ms) (Tag.text ⟨name, false⟩) (Tag.text ⟨name, true⟩) 0 cs)) := by
  have hm : m ∈ markChars := marks m (List.mem_cons_self ..)
  have edge : isEdge m = true := by simp [isEdge, hm]
  have other : m ≠ '<' := by
    rintro rfl
    exact absurd hm (by decide)
  have opening : ⟨name, false⟩ ∈ knownTags :=
    List.mem_flatMap.2 ⟨name, known, List.mem_cons_self ..⟩
  have closing : ⟨name, true⟩ ∈ knownTags :=
    List.mem_flatMap.2 ⟨name, known, List.mem_cons_of_mem _ (List.mem_cons_self ..)⟩
  -- the text before the first character of a mark stays
  obtain ⟨front, rest, whole, others, stop⟩ := Text.exists_run (· != m) cs
  have apart : m ∉ front := fun mem => by simpa using others m mem
  rw [whole, convertFrom_front apart, pairsFrom_front apart]
  cases rest with
  | nil =>
    have kept : SetOff name [] (tagsOf front ++ []) (tagsOf front ++ []) :=
      .keep (tagsOf front) .nil
    simpa [convertFrom, pairsFrom] using kept
  | cons c rest =>
    have start : c = m := by simpa using stop c rfl
    obtain rfl := start.symm
    obtain ⟨same, found⟩ | ⟨inner, after, split, same, found⟩ :=
      convertFrom_pairsFrom m ms (Tag.text ⟨name, false⟩) (Tag.text ⟨name, true⟩) m rest
    · have shorter : rest.length < cs.length := by
        rw [whole]
        simp only [List.length_append, List.length_cons]
        omega
      rw [same, found, tagsOf_cut edge, tagsOf_cut edge, tagsOf_other other, tagsOf_other other]
      exact .keep _ (convertFrom_setOff marks known rest)
    · have shorter : after.length < cs.length := by
        rw [whole, split]
        simp only [List.length_append, List.length_cons]
        omega
      have read : tagsOf (m :: rest) = tagsOf inner ++ tagsOf after := by
        rw [split, tagsOf_marks marks, tagsOf_cut edge, ← List.cons_append, tagsOf_marks marks]
      have written (back : List Char) :
          tagsOf (front ++ (Tag.text ⟨name, false⟩ ++ inner ++ Tag.text ⟨name, true⟩ ++ back)) =
            tagsOf front ++ (⟨name, false⟩ :: tagsOf inner ++ ⟨name, true⟩ :: tagsOf back) := by
        rw [List.append_assoc, List.append_assoc, tagsOf_append_tag opening,
          tagsOf_append_tag closing]
        rfl
      rw [same, found, tagsOf_cut edge, read, written]
      exact .keep _ (.element _ (convertFrom_setOff marks known after))
termination_by cs.length

end

/-! ## All rounds -/

/-- A kind of marks, and the name of the elements that they become. -/
structure Round where
  mark : String
  name : String
  filled : mark.toList ≠ []
  marks : ∀ c ∈ mark.toList, c ∈ markChars
  known : name ∈ elementNames

namespace Round

def convert (r : Round) (cs : List Char) : List Char := Inline.convert r.mark r.name cs

/-- The texts that a round sets off. -/
def pairs (r : Round) (cs : List Char) : List (List Char) := pairsFrom r.mark.toList 0 cs

theorem setOff (r : Round) (cs : List Char) :
    SetOff r.name ((r.pairs cs).map tagsOf) (tagsOf cs) (tagsOf (r.convert cs)) := by
  obtain ⟨m, ms, mark⟩ := List.exists_cons_of_ne_nil r.filled
  have marks := r.marks
  unfold convert pairs Inline.convert
  rw [mark] at marks ⊢
  exact convertFrom_setOff marks r.known cs

end Round

/-- The rounds of emphases, in their order. -/
def rounds : List Round :=
  [⟨"**", "strong", by decide, by simp [markChars], by decide⟩,
    ⟨"*", "em", by decide, by simp [markChars], by decide⟩,
    ⟨"\x60", "code", by decide, by simp [markChars], by decide⟩,
    ⟨"~~", "del", by decide, by simp [markChars], by decide⟩]

/-- A text after some rounds. -/
def convertAll (rs : List Round) (cs : List Char) : List Char :=
  rs.foldl (fun cs r => r.convert cs) cs

theorem html_toList (s : String) :
    (html s).toList = convertAll rounds (Text.escapeContent s).toList := by
  simp only [html, toTags, String.toList_ofList, convertAll, rounds, List.foldl_cons,
    List.foldl_nil, Round.convert]

/-- In each text that one of some rounds sets off, the tags of earlier rounds nest. -/
def PairsNest : List Round → List Char → Prop
  | [], _ => True
  | r :: rs, cs => (∀ part ∈ r.pairs cs, Nested (tagsOf part)) ∧ PairsNest rs (r.convert cs)

/-- Rounds whose elements are not those of earlier rounds, nor of a text to begin with. -/
structure Apart (rs : List Round) (cs : List Char) : Prop where
  distinct : (rs.map (·.name)).Nodup
  fresh : ∀ t ∈ tagsOf cs, t.name ∉ rs.map (·.name)

variable {r : Round} {rs : List Round} {cs : List Char}

theorem Apart.other (h : Apart (r :: rs) cs) : ∀ t ∈ tagsOf cs, t.name ≠ r.name :=
  fun t ht same => h.fresh t ht (same ▸ List.mem_cons_self ..)

theorem Apart.next (h : Apart (r :: rs) cs) : Apart rs (r.convert cs) := by
  obtain ⟨first, distinct⟩ := List.nodup_cons.1 h.distinct
  refine ⟨distinct, fun t ht mem => ?_⟩
  rcases (r.setOff cs).mem ht with own | earlier
  · rw [own] at mem
    exact first mem
  · exact h.fresh t earlier (List.mem_cons_of_mem _ mem)

theorem nested_convertAll (h : Apart rs cs) :
    Nested (tagsOf (convertAll rs cs)) ↔ Nested (tagsOf cs) ∧ PairsNest rs cs := by
  induction rs generalizing cs with
  | nil => exact (and_iff_left trivial).symm
  | cons r rs ih =>
    have round := (r.setOff cs).openAfter_iff h.other []
    have later := ih h.next
    rw [List.forall_mem_map] at round
    show Nested (tagsOf (convertAll rs (r.convert cs))) ↔ _
    rw [later, PairsNest, ← and_assoc]
    exact and_congr_left fun _ => round

/-- Later rounds leave the tags of other names as they are. -/
theorem filter_convertAll {name : String} (other : name ∉ rs.map (·.name)) (cs : List Char) :
    (tagsOf (convertAll rs cs)).filter (·.name = name) = (tagsOf cs).filter (·.name = name) := by
  induction rs generalizing cs with
  | nil => rfl
  | cons r rs ih =>
    rw [List.map_cons, List.mem_cons, not_or] at other
    have skips : ∀ t : Tag, t.name = r.name → decide (t.name = name) = false :=
      fun t own => decide_eq_false fun same => other.1 (same.symm.trans own)
    exact (ih other.2 (r.convert cs)).trans ((r.setOff cs).others skips)

/-- The tags of one name are pairs, one after the other. -/
theorem pairs_convertAll {name : String} (h : Apart rs cs) (mem : name ∈ rs.map (·.name)) :
    ∃ n, (tagsOf (convertAll rs cs)).filter (·.name = name) =
      (List.replicate n [⟨name, false⟩, ⟨name, true⟩]).flatten := by
  induction rs generalizing cs with
  | nil => cases mem
  | cons r rs ih =>
    rcases List.mem_cons.1 mem with rfl | mem
    · have once : r.name ∉ rs.map (·.name) := (List.nodup_cons.1 h.distinct).1
      exact ⟨_, (filter_convertAll once _).trans ((r.setOff cs).own h.other)⟩
    · exact ih h.next mem

theorem tagsOf_escapeContent (s : String) : tagsOf (Text.escapeContent s).toList = [] := by
  refine tagsOf_plain fun mem => ?_
  rw [Text.escapeContent, String.toList_ofList, List.mem_flatMap] at mem
  obtain ⟨c, -, mem⟩ := mem
  exact (Text.not_bracket_contentChar c _ mem).1 rfl

theorem rounds_apart (s : String) : Apart rounds (Text.escapeContent s).toList := by
  refine ⟨by decide, fun t ht => ?_⟩
  rw [tagsOf_escapeContent] at ht
  cases ht

theorem name_mem_elementNames {t : Tag} (ht : t ∈ tagsOf cs) : t.name ∈ elementNames := by
  induction cs with
  | nil => cases ht
  | cons c cs ih =>
    rcases List.mem_append.1 ht with here | later
    · have known := List.mem_of_find?_eq_some (Option.mem_toList.1 here)
      have names : ∀ t ∈ knownTags, t.name ∈ elementNames := by decide
      exact names t known
    · exact ih later

/-- In inline markup the tags of each element are pairs, one after the other, so that no element
stands in another one of its kind. All tags together nest exactly if each round of marks sets off
only texts in which the tags of earlier rounds nest. -/
theorem html_nested_iff (s : String) :
    (∀ name, ∃ n, (tagsOf (html s).toList).filter (·.name = name) =
      (List.replicate n [⟨name, false⟩, ⟨name, true⟩]).flatten) ∧
    (Nested (tagsOf (html s).toList) ↔ PairsNest rounds (Text.escapeContent s).toList) := by
  have apart := rounds_apart s
  rw [html_toList]
  constructor
  · intro name
    by_cases known : name ∈ elementNames
    · exact pairs_convertAll apart known
    · refine ⟨0, List.filter_eq_nil_iff.2 fun t ht same => known ?_⟩
      rw [← of_decide_eq_true same]
      exact name_mem_elementNames ht
  · have none : Nested (tagsOf (Text.escapeContent s).toList) := by
      rw [tagsOf_escapeContent]
      rfl
    rw [nested_convertAll apart, and_iff_right none]

/-- A star inside strong text and one behind it are taken for a pair, whose element starts in the
strong one and ends after it; and so are two of three stars on either side of a word. -/
theorem html_crossed :
    html "**a*b**c*" = "<strong>a<em>b</strong>c</em>" ∧
      ¬ Nested (tagsOf (html "**a*b**c*").toList) ∧
      html "***a***" = "<strong><em>a</strong></em>" ∧
      ¬ Nested (tagsOf (html "***a***").toList) := by
  decide

end ProfileReadme.Inline
