/-
The attributes of an element, written and read again. A tag names them in the order of their names,
and a document is told its character set; what is read back stands in that order, with lists of words
that are tidy already, so a second tag is the first one again.
-/
import ProfileReadme.Proofs.Markup.Reading

namespace ProfileReadme.Markup

/-! ## Lists of words -/

/-- A list of words is no link. -/
theorem isWordList_of_link {element key : String} (h : isWordList element key = true) :
    key ∉ linkAttributes := by
  rcases Bool.or_eq_true_iff.1 h with common | own
  · exact (by decide : ∀ k ∈ ["class", "accesskey", "dropzone"], k ∉ linkAttributes) key
      (of_decide_eq_true common)
  · have key_mem := List.mem_map_of_mem (f := Prod.snd) (of_decide_eq_true own)
    revert key_mem
    exact (by decide : ∀ k ∈ List.map Prod.snd _, k ∉ linkAttributes) key

theorem putAttribute_new {name value : String} : ∀ {as : Attributes},
    name ∉ as.map Prod.fst → putAttribute name value as = as ++ [(name, value)]
  | [], _ => rfl
  | (n, v) :: as, new => by
    obtain ⟨other, new⟩ := not_or.1 (mt List.mem_cons.2 new)
    unfold putAttribute
    rw [if_neg (Ne.symm other), putAttribute_new new]
    rfl

/-- Attributes of distinct names are put behind each other. -/
theorem putAll_distinct : ∀ {as done : Attributes}, ((done ++ as).map Prod.fst).Nodup →
    putAll done as = done ++ as
  | [], done, _ => (List.append_nil done).symm
  | (n, v) :: as, done, distinct => by
    have new : n ∉ done.map Prod.fst := by
      rw [List.map_append, List.nodup_append] at distinct
      exact fun mem => distinct.2.2 n mem n (List.mem_cons_self ..) rfl
    have later : ((done ++ [(n, v)] ++ as).map Prod.fst).Nodup := by
      rwa [List.append_assoc]
    show putAll (putAttribute n v done) as = _
    rw [putAttribute_new new, putAll_distinct later, List.append_assoc]
    rfl

theorem lookup_eq_some_iff_mem {k v : String} : ∀ {as : Attributes}, (as.map Prod.fst).Nodup →
    (as.lookup k = some v ↔ (k, v) ∈ as)
  | [], _ => by simp
  | (n, w) :: as, distinct => by
    obtain ⟨new, distinct⟩ := List.nodup_cons.1 distinct
    rw [List.lookup_cons, List.mem_cons, Prod.mk.injEq]
    by_cases same : k = n
    · subst same
      have absent : (k, v) ∉ as := fun mem => new (List.mem_map.2 ⟨_, mem, rfl⟩)
      simp [absent, eq_comm]
    · simp [beq_false_of_ne same, same, lookup_eq_some_iff_mem distinct]

/-! ## The character set of a document -/

/-- Whether a character set is replaced here. -/
def startsCharset (before : Option Char) (cs : List Char) : Bool :=
  before.all (fun b => Text.isBlank b || b = ';') && "charset=".toList.isPrefixOf cs

theorem replaceCharset_cons (fuel : Nat) (c : Char) (cs : List Char) (before : Option Char) :
    replaceCharset (fuel + 1) (c :: cs) before =
      if startsCharset before (c :: cs) then
        "charset=utf-8".toList ++
          replaceCharset fuel (((c :: cs).drop 8).dropWhile (· ≠ ';')) (some '8')
      else c :: replaceCharset fuel cs (some c) := by
  conv => lhs; unfold replaceCharset
  unfold startsCharset Text.after?
  dsimp only
  cases before.all fun b => Text.isBlank b || decide (b = ';') with
  | false =>
    rw [Bool.false_and, if_neg Bool.false_ne_true]
    split <;> rfl
  | true =>
    rw [Bool.true_and]
    cases "charset=".toList.isPrefixOf (c :: cs) <;> rfl

theorem replaceCharset_plain (fuel : Nat) {c : Char} {cs : List Char} {before : Option Char}
    (h : startsCharset before (c :: cs) = false) :
    replaceCharset (fuel + 1) (c :: cs) before = c :: replaceCharset fuel cs (some c) := by
  rw [replaceCharset_cons, h, if_neg Bool.false_ne_true]

theorem replaceCharset_mark (fuel : Nat) {rest : List Char} {before : Option Char}
    (h : startsCharset before ("charset=".toList ++ rest) = true) :
    replaceCharset (fuel + 1) ("charset=".toList ++ rest) before =
      "charset=utf-8".toList ++ replaceCharset fuel (rest.dropWhile (· ≠ ';')) (some '8') := by
  have step := replaceCharset_cons fuel 'c' ("harset=".toList ++ rest) before
  rwa [if_pos (show startsCharset before ('c' :: ("harset=".toList ++ rest)) = true from h)] at step

/-- The first characters of a text stay when its character sets are replaced: those of a mark. -/
theorem replaceCharset_take : ∀ (n fuel : Nat) (cs : List Char) (before : Option Char), n ≤ 8 →
    (replaceCharset fuel cs before).take n = cs.take n
  | _, 0, _, _, _ => rfl
  | _, _ + 1, [], _, _ => rfl
  | 0, _ + 1, _ :: _, _, _ => rfl
  | n + 1, fuel + 1, c :: cs, before, small => by
    cases starts : startsCharset before (c :: cs) with
    | false =>
      rw [replaceCharset_plain fuel starts, List.take_succ_cons, List.take_succ_cons,
        replaceCharset_take n fuel cs (some c) (Nat.le_of_succ_le small)]
    | true =>
      -- both texts start with the mark
      obtain ⟨rest, whole⟩ := List.isPrefixOf_iff_prefix.1 (Bool.and_eq_true_iff.1 starts).2
      rw [← whole] at starts ⊢
      rw [replaceCharset_mark fuel starts]
      have front (X : List Char) :
          ("charset=".toList ++ X).take (n + 1) = "charset=".toList.take (n + 1) :=
        List.take_append_of_le_length small
      exact (front ("utf-8".toList ++ _)).trans (front rest).symm

/-- A second replacement finds the set of the output everywhere. -/
theorem replaceCharset_again : ∀ (fuel fuel' : Nat) (cs : List Char) (before : Option Char),
    cs.length < fuel →
    replaceCharset fuel' (replaceCharset fuel cs before) before = replaceCharset fuel cs before
  | _, 0, _, _, _ => rfl
  | fuel + 1, fuel' + 1, [], before, _ => rfl
  | fuel + 1, fuel' + 1, c :: cs, before, room => by
    have room : cs.length < fuel := Nat.lt_of_succ_lt_succ room
    cases starts : startsCharset before (c :: cs) with
    | false =>
      have same := replaceCharset_take 7 fuel cs (some c) (by decide)
      -- no mark comes up where there was none
      have still : startsCharset before (c :: replaceCharset fuel cs (some c)) = false := by
        rw [← starts]
        unfold startsCharset
        congr 1
        rw [Bool.eq_iff_iff, List.isPrefixOf_iff_prefix, List.isPrefixOf_iff_prefix,
          List.prefix_iff_eq_take, List.prefix_iff_eq_take]
        show _ = (c :: _).take (7 + 1) ↔ _ = (c :: _).take (7 + 1)
        rw [List.take_succ_cons, List.take_succ_cons, same]
      rw [replaceCharset_plain fuel starts, replaceCharset_plain fuel' still,
        replaceCharset_again fuel fuel' cs (some c) room]
    | true =>
      obtain ⟨rest, whole⟩ := List.isPrefixOf_iff_prefix.1 (Bool.and_eq_true_iff.1 starts).2
      have short : (rest.dropWhile (· ≠ ';')).length < fuel := by
        have := congrArg List.length whole
        have := (List.dropWhile_suffix (· ≠ ';') (l := rest)).length_le
        simp at *
        omega
      have ih := replaceCharset_again fuel fuel' (rest.dropWhile (· ≠ ';')) (some '8') short
      rw [← whole] at starts ⊢
      rw [replaceCharset_mark fuel starts]
      -- the new set ends where the old one did
      have stop := List.head?_dropWhile_not (· ≠ ';') rest
      generalize rest.dropWhile (· ≠ ';') = later at *
      have stop : (replaceCharset fuel later (some '8')).dropWhile (· ≠ ';') =
          replaceCharset fuel later (some '8') := by
        have first := replaceCharset_take 1 fuel later (some '8') (by decide)
        cases written : replaceCharset fuel later (some '8') with
        | nil => rfl
        | cons d ds =>
          cases later with
          | nil => simp [written] at first
          | cons e es =>
            obtain rfl : d = e := by simpa [written] using first
            exact List.dropWhile_cons_of_neg (by simpa using stop)
      have still : startsCharset before ("charset=".toList ++ ("utf-8".toList ++
          replaceCharset fuel later (some '8'))) = true := by
        unfold startsCharset at starts ⊢
        rw [(Bool.and_eq_true_iff.1 starts).1, Bool.true_and, List.isPrefixOf_iff_prefix]
        exact List.prefix_append _ _
      have inside : ∀ c ∈ "utf-8".toList, decide (c ≠ ';') = true :=
        List.all_eq_true.1 (by decide : "utf-8".toList.all (decide <| · ≠ ';') = true)
      have step := replaceCharset_mark fuel' still
      rw [List.dropWhile_append_of_pos inside, stop, ih] at step
      exact step

/-- Whether a document names its character set in an attribute of its own. -/
def namesCharset (as : Attributes) : Bool := (as.lookup "charset").isSome

theorem namesCharset_iff {as : Attributes} (distinct : (as.map Prod.fst).Nodup) :
    namesCharset as = true ↔ "charset" ∈ as.map Prod.fst := by
  unfold namesCharset
  rw [Option.isSome_iff_exists]
  simp only [lookup_eq_some_iff_mem distinct, List.mem_map, Prod.exists, exists_and_right,
    exists_eq_right]

/-- Whether a document names its character set in its content. -/
def hasContentType (as : Attributes) : Bool :=
  (as.lookup "http-equiv").any (Text.lower · == "content-type")

/-- An attribute as it is written in a tag of these attributes. -/
def shown (name : String) (as : Attributes) (a : String × String) : String × String :=
  if name = "meta" then
    if namesCharset as then if a.1 = "charset" then (a.1, "utf-8") else a
    else if hasContentType as then
      if a.1 = "content" then
        (a.1, String.ofList (replaceCharset (a.2.length + 1) a.2.toList none))
      else a
    else a
  else a

theorem shownAttributes_eq (name : String) (as : Attributes) :
    shownAttributes name as = as.map (shown name as) := by
  unfold shownAttributes shown namesCharset hasContentType
  split
  · split
    · rfl
    · split
      · rfl
      · exact (List.map_id as).symm
  · exact (List.map_id as).symm

theorem shown_name (name : String) (as : Attributes) (a : String × String) :
    (shown name as a).1 = a.1 := by
  unfold shown
  split_ifs <;> rfl

/-- What is written for an attribute is written as it is. -/
theorem shown_shown (name : String) (as : Attributes) (a : String × String) :
    shown name as (shown name as a) = shown name as a := by
  unfold shown
  split_ifs
  · rfl
  · rfl
  · -- the content of a document, whose character sets are replaced already
    refine congrArg (fun cs => (a.1, String.ofList cs)) ?_
    rw [String.toList_ofList]
    refine replaceCharset_again _ _ _ _ ?_
    rw [String.length_toList]
    exact Nat.lt_succ_self _
  · rfl
  · rfl
  · rfl

/-- Only the character set and the content of a document are written in another way. -/
theorem shown_other {name : String} {as : Attributes} {a : String × String}
    (charset : a.1 ≠ "charset") (content : a.1 ≠ "content") : shown name as a = a := by
  unfold shown
  split_ifs <;> rfl

/-! ## The order of a tag -/

/-- The attributes of an element in the order in which they are written. -/
def writtenOrder (name : String) (attributes : Attributes) : Attributes :=
  (shownAttributes name attributes).mergeSort fun a b => a.1 ≤ b.1

theorem names_shownAttributes (name : String) (as : Attributes) :
    (shownAttributes name as).map Prod.fst = as.map Prod.fst := by
  rw [shownAttributes_eq, List.map_map]
  exact List.map_congr_left fun a _ => shown_name name as a

theorem names_writtenOrder (name : String) (as : Attributes) :
    ((writtenOrder name as).map Prod.fst).Perm (as.map Prod.fst) := by
  rw [← names_shownAttributes name as]
  exact (List.mergeSort_perm ..).map Prod.fst

theorem mem_writtenOrder {name : String} {as : Attributes} {a : String × String} :
    a ∈ writtenOrder name as ↔ ∃ b ∈ as, shown name as b = a := by
  rw [writtenOrder, List.mem_mergeSort, shownAttributes_eq, List.mem_map]

theorem shown_written (name : String) {as : Attributes} (distinct : (as.map Prod.fst).Nodup) :
    shown name (writtenOrder name as) = shown name as := by
  have names (k : String) : k ∈ (writtenOrder name as).map Prod.fst ↔ k ∈ as.map Prod.fst :=
    (names_writtenOrder name as).mem_iff
  have distinct' := (names_writtenOrder name as).nodup_iff.2 distinct
  have charset : namesCharset (writtenOrder name as) = namesCharset as := by
    rw [Bool.eq_iff_iff, namesCharset_iff distinct, namesCharset_iff distinct', names]
  have content : hasContentType (writtenOrder name as) = hasContentType as := by
    have found : (writtenOrder name as).lookup "http-equiv" = as.lookup "http-equiv" := by
      refine Option.ext fun v => ?_
      rw [lookup_eq_some_iff_mem distinct, lookup_eq_some_iff_mem distinct', mem_writtenOrder]
      constructor
      · rintro ⟨b, mem, same⟩
        have key : b.1 = "http-equiv" := by rw [← shown_name name as b, same]
        rw [shown_other (by rw [key]; decide) (by rw [key]; decide)] at same
        exact same ▸ mem
      · refine fun mem => ⟨_, mem, shown_other ?_ ?_⟩
        · show "http-equiv" ≠ "charset"
          decide
        · show "http-equiv" ≠ "content"
          decide
    unfold hasContentType
    rw [found]
  unfold shown
  rw [charset, content]

theorem shownAttributes_written (name : String) {as : Attributes}
    (distinct : (as.map Prod.fst).Nodup) :
    shownAttributes name (writtenOrder name as) = writtenOrder name as := by
  rw [shownAttributes_eq, shown_written name distinct]
  refine (List.map_congr_left fun a mem => ?_).trans (List.map_id _)
  obtain ⟨b, -, rfl⟩ := mem_writtenOrder.1 mem
  exact shown_shown name as b

/-- Attributes in the order of a tag stay in it. -/
theorem writtenOrder_again (name : String) {as : Attributes}
    (distinct : (as.map Prod.fst).Nodup) :
    writtenOrder name (writtenOrder name as) = writtenOrder name as := by
  show (shownAttributes name (writtenOrder name as)).mergeSort _ = _
  rw [shownAttributes_written name distinct]
  refine List.mergeSort_of_pairwise (List.pairwise_mergeSort ?_ ?_ _)
  · intro a b c ab bc
    exact decide_eq_true (String.le_trans (of_decide_eq_true ab) (of_decide_eq_true bc))
  · intro a b
    simpa using String.le_total a.1 b.1

/-! ## Attributes that were read -/

/-- Whether attributes are such as are read: no name comes twice, and lists of words are tidy. -/
def isTidy (element : String) (as : Attributes) : Bool :=
  decide (as.map Prod.fst).Nodup && as.all fun a => settleAttribute element a == a

theorem isTidy_iff {element : String} {as : Attributes} : isTidy element as = true ↔
    (as.map Prod.fst).Nodup ∧ ∀ a ∈ as, settleAttribute element a = a := by
  unfold isTidy
  simp

/-- Attributes stay tidy when unsafe ones go: a list of words is no link. -/
theorem isTidy_clean {element : String} {as : Attributes} (tidy : isTidy element as = true) :
    isTidy element (cleanAttributes as) = true := by
  obtain ⟨distinct, settled⟩ := isTidy_iff.1 tidy
  refine isTidy_iff.2 ⟨?_, fun a mem => ?_⟩
  · unfold cleanAttributes
    rw [List.map_map]
    have names : Prod.fst ∘ cleanAttribute = Prod.fst := funext fun a => by
      rw [Function.comp_apply, cleanAttribute]
      split <;> rfl
    rw [names]
    exact distinct.sublist (List.filter_sublist.map Prod.fst)
  · obtain ⟨b, kept, rfl⟩ := List.mem_map.1 mem
    unfold cleanAttribute
    split
    · rename_i unsafeLink
      have link := of_decide_eq_true (Bool.and_eq_true_iff.1 unsafeLink).1
      refine if_neg fun words => ?_
      exact isWordList_of_link words link
    · exact settled b (List.mem_of_mem_filter kept)

/-- The attributes of a written tag are read as they stand there. -/
theorem putAll_written {element : String} {as : Attributes} (tidy : isTidy element as = true) :
    putAll [] (writtenOrder element as) = writtenOrder element as := by
  refine (@putAll_distinct _ [] ?_).trans (List.nil_append _)
  rw [List.nil_append]
  exact (names_writtenOrder element as).nodup_iff.2 (isTidy_iff.1 tidy).1

theorem settle_written {element : String} {as : Attributes} (tidy : isTidy element as = true) :
    (writtenOrder element as).map (settleAttribute element) = writtenOrder element as := by
  refine (List.map_congr_left fun a mem => ?_).trans (List.map_id _)
  obtain ⟨b, kept, rfl⟩ := mem_writtenOrder.1 mem
  have settled := (isTidy_iff.1 tidy).2 b kept
  have plain (key value : String) (h : isWordList "meta" key = false) :
      settleAttribute "meta" (key, value) = (key, value) :=
    if_neg (by rw [h]; exact Bool.false_ne_true)
  unfold shown
  split_ifs with document _ charset _ content
  · subst document
    rw [charset]
    exact plain _ _ (by decide)
  · exact settled
  · subst document
    rw [content]
    exact plain _ _ (by decide)
  · exact settled
  · exact settled
  · exact settled

end ProfileReadme.Markup
