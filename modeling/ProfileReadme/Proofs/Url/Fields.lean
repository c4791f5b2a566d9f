/-
Which fields the URL of a badge tells apart. In a label and in a message each dash is doubled, and
one dash joins them; where they meet, this one stands in a run of an odd number of dashes, and
nothing says which of them it is. So a URL determines its color, and its label and message up to
dashes that may belong to the end of the one or to the start of the other.
-/
import ProfileReadme.Proofs.Url.Percent

namespace ProfileReadme.Url

/-! ## Doubled characters -/

/-- A character of a badge before it is encoded. -/
def doubled (c : Char) : List Char := if c = '-' ∨ c = '_' then [c, c] else [c]

/-- Some dashes. -/
def dashes (k : Nat) : List Char := List.replicate k '-'

/-- Dashes at the end of a label have become the start of a message. -/
def Moved (label message label' message' : List Char) : Prop :=
  ∃ k, label = label' ++ dashes k ∧ message' = dashes k ++ message

theorem badgeText_eq (s : String) :
    badgeText s = encode (String.ofList (s.toList.flatMap doubled)) := by
  unfold badgeText
  refine congrArg encode (String.toList_inj.1 ?_)
  rw [String.toList_ofList, Text.replace_char _ _ (q := '_') rfl,
    Text.replace_char _ _ (q := '-') rfl, List.flatMap_assoc]
  refine congrArg (s.toList.flatMap ·) (funext fun c => ?_)
  unfold doubled
  by_cases dash : c = '-'
  · subst dash
    rfl
  · by_cases low : c = '_'
    · subst low
      rfl
    · simp [dash, low]

theorem doubled_cancel {c d : Char} {cs ds : List Char} (h : doubled c ++ cs = doubled d ++ ds) :
    c = d ∧ cs = ds := by
  have first (c : Char) (cs : List Char) : ∃ rest, doubled c ++ cs = c :: rest := by
    unfold doubled
    split
    · exact ⟨c :: cs, rfl⟩
    · exact ⟨cs, rfl⟩
  obtain ⟨rest, hc⟩ := first c cs
  obtain ⟨rest', hd⟩ := first d ds
  rw [hc, hd] at h
  obtain ⟨rfl, rfl⟩ := List.cons.inj h
  exact ⟨rfl, List.append_cancel_left (hc.trans hd.symm)⟩

theorem doubled_ne_nil (c : Char) : doubled c ≠ [] := by
  unfold doubled
  split
  · exact List.cons_ne_nil _ _
  · exact List.cons_ne_nil _ _

theorem doubled_injective : ∀ {cs ds : List Char}, cs.flatMap doubled = ds.flatMap doubled → cs = ds
  | [], [], _ => rfl
  | [], d :: ds, h => absurd (List.append_eq_nil_iff.1 h.symm).1 (doubled_ne_nil d)
  | c :: cs, [], h => absurd (List.append_eq_nil_iff.1 h).1 (doubled_ne_nil c)
  | c :: cs, d :: ds, h => by
    rw [List.flatMap_cons, List.flatMap_cons] at h
    obtain ⟨rfl, rest⟩ := doubled_cancel h
    rw [doubled_injective rest]

/-! ## Where label and message meet -/

/-- A doubled text that starts with a dash starts with two. -/
theorem doubled_dash (cs : List Char) {rest : List Char} (h : cs.flatMap doubled = '-' :: rest) :
    ∃ ds, cs = '-' :: ds ∧ rest = '-' :: ds.flatMap doubled := by
  cases cs with
  | nil => cases h
  | cons c cs =>
    have whole : doubled c ++ cs.flatMap doubled = '-' :: rest := h
    unfold doubled at whole
    split at whole
    · obtain ⟨rfl, rfl⟩ := List.cons.inj whole
      exact ⟨cs, rfl, rfl⟩
    next apart =>
      obtain ⟨rfl, -⟩ := List.cons.inj whole
      exact absurd (.inl rfl) apart

/-- Behind no label at all, a dash in a doubled text that joins it belongs to a run of dashes. -/
theorem moved_of_start : ∀ {label message message' : List Char},
    '-' :: message.flatMap doubled = label.flatMap doubled ++ '-' :: message'.flatMap doubled →
      Moved label message' [] message
  | [], message, message', h => by
    obtain rfl := doubled_injective (List.cons.inj h).2
    exact ⟨0, rfl, rfl⟩
  | c :: label, message, message', h => by
    obtain ⟨x, xs, start⟩ := List.exists_cons_of_ne_nil
      (List.append_ne_nil_of_left_ne_nil (doubled_ne_nil c) (label.flatMap doubled))
    rw [List.flatMap_cons, start, List.cons_append] at h
    obtain ⟨rfl, rest⟩ := List.cons.inj h
    obtain ⟨more, eq, rfl⟩ := doubled_dash (c :: label) start
    obtain ⟨rfl, rfl⟩ := List.cons.inj eq
    -- the joining dash and one of the label are one dash of the message: one less on either side
    obtain ⟨left, rfl, behind⟩ := doubled_dash message rest
    obtain ⟨k, rfl, rfl⟩ := moved_of_start behind.symm
    exact ⟨k + 1, rfl, rfl⟩

theorem Moved.cons {label message label' message' : List Char} (c : Char)
    (h : Moved label message label' message') :
    Moved (c :: label) message (c :: label') message' := by
  obtain ⟨k, rfl, same⟩ := h
  exact ⟨k, rfl, same⟩

/-- Nothing is moved where a label does not end with a dash, or a message starts with none. -/
theorem Moved.eq {label message label' message' : List Char}
    (h : Moved label message label' message')
    (apart : label.getLast? ≠ some '-' ∨ message'.head? ≠ some '-') :
    label = label' ∧ message = message' := by
  obtain ⟨k, rfl, rfl⟩ := h
  cases k with
  | zero => exact ⟨List.append_nil label', rfl⟩
  | succ k =>
    have last : (label' ++ dashes (k + 1)).getLast? = some '-' := by
      simp [dashes, List.replicate_succ']
    rcases apart with label | message
    · exact absurd last label
    · exact absurd rfl message

theorem Moved.joined {label message label' message' : List Char}
    (h : Moved label message label' message') :
    label.flatMap doubled ++ '-' :: message.flatMap doubled =
      label'.flatMap doubled ++ '-' :: message'.flatMap doubled := by
  obtain ⟨k, rfl, rfl⟩ := h
  have past (rest : List Char) : (dashes k).flatMap doubled ++ '-' :: rest =
      '-' :: ((dashes k).flatMap doubled ++ rest) := by
    induction k with
    | zero => rfl
    | succ k ih => exact congrArg (fun cs => '-' :: '-' :: cs) ih
  rw [List.flatMap_append, List.flatMap_append, List.append_assoc, past]

theorem moved_of_joined : ∀ {label message label' message' : List Char},
    label.flatMap doubled ++ '-' :: message.flatMap doubled =
        label'.flatMap doubled ++ '-' :: message'.flatMap doubled →
      Moved label message label' message' ∨ Moved label' message' label message
  -- the labels are compared until one of them ends; what the other has left are dashes
  | [], _, _, _, h => .inr (moved_of_start h)
  | _, _, [], _, h => .inl (moved_of_start h.symm)
  | c :: label, message, d :: label', message', h => by
    rw [List.flatMap_cons, List.flatMap_cons, List.append_assoc, List.append_assoc] at h
    obtain ⟨rfl, rest⟩ := doubled_cancel h
    exact (moved_of_joined rest).imp (Moved.cons c) (Moved.cons c)

/-- Doubled texts joined by a dash are the same exactly if dashes have been moved over it. -/
theorem joined_eq_iff {label message label' message' : List Char} :
    label.flatMap doubled ++ '-' :: message.flatMap doubled =
        label'.flatMap doubled ++ '-' :: message'.flatMap doubled ↔
      Moved label message label' message' ∨ Moved label' message' label message := by
  constructor
  · exact moved_of_joined
  · rintro (moved | moved)
    · exact moved.joined
    · exact moved.joined.symm

/-! ## Paths and URLs -/

/-- The text of a badge in front of its color. -/
def joined (label message : String) : String :=
  String.ofList (label.toList.flatMap doubled ++ '-' :: message.toList.flatMap doubled)

theorem badgePath_toList {message : String} (filled : message ≠ "") (label badgeColor : String) :
    (badgePath label (some message) badgeColor).toList =
      (encode (joined label message)).toList ++ '-' :: (color badgeColor).toList := by
  have path : badgePath label (some message) badgeColor =
      Text.join "-" [badgeText label, badgeText message, color badgeColor] := by
    unfold badgePath
    dsimp only
    rw [if_neg (by simpa using filled)]
    rfl
  have dash : encodeChar '-' = ['-'] := rfl
  rw [path, Text.join_cons_toList, Text.join_cons_toList, badgeText_eq, badgeText_eq, joined,
    encode_toList, encode_toList, encode_toList]
  simp only [String.toList_ofList, List.flatMap_append, List.flatMap_cons, dash]
  simp [Text.join]

theorem dash_not_mem_color {c : String} (solid : '-' ∉ c.toList) : '-' ∉ (color c).toList := by
  rcases color_toList c with same | sign
  · rwa [same]
  · rw [sign, List.mem_cons, not_or] at solid
    exact solid.2

theorem badgePath_eq_iff {label label' message message' badgeColor badgeColor' : String}
    (filled : message ≠ "") (filled' : message' ≠ "") (solid : '-' ∉ badgeColor.toList)
    (solid' : '-' ∉ badgeColor'.toList) :
    badgePath label (some message) badgeColor = badgePath label' (some message') badgeColor' ↔
      joined label message = joined label' message' ∧ color badgeColor = color badgeColor' := by
  rw [← String.toList_inj, badgePath_toList filled, badgePath_toList filled']
  constructor
  · intro same
    -- colors have no dash, so the last dash of the path is the one before the color
    obtain ⟨front, colors⟩ :=
      Text.cut_last (dash_not_mem_color solid) (dash_not_mem_color solid') same
    exact ⟨encode_injective (String.toList_inj.1 front), String.toList_inj.1 colors⟩
  · rintro ⟨front, colors⟩
    rw [front, colors]

theorem withQuery_inj {base base' : String} (q : Query) :
    withQuery base q = withQuery base' q ↔ base = base' := by
  unfold withQuery
  dsimp only
  split
  · exact Iff.rfl
  · rw [String.append_assoc, String.append_assoc]
    exact String.append_left_inj _

theorem badge_eq_iff (label label' : String) {message message' badgeColor badgeColor' : String}
    (filled : message ≠ "") (filled' : message' ≠ "") (solid : '-' ∉ badgeColor.toList)
    (solid' : '-' ∉ badgeColor'.toList) (o : BadgeOptions) :
    badge label (some message) badgeColor o = badge label' (some message') badgeColor' o ↔
      color badgeColor = color badgeColor' ∧
        (Moved label.toList message.toList label'.toList message'.toList ∨
          Moved label'.toList message'.toList label.toList message.toList) := by
  unfold badge
  rw [withQuery_inj, String.append_right_inj, badgePath_eq_iff filled filled' solid solid',
    and_comm]
  unfold joined
  rw [String.ofList_inj, joined_eq_iff]

/-- With the same options, two badges have one URL exactly if their colors are the same and the
label and message of the one become those of the other when dashes are moved from the end of the
label to the start of the message. So the URL tells all fields of badges whose labels do not end
with a dash, or whose messages do not start with one. -/
theorem badge_told_apart {label label' message message' badgeColor badgeColor' : String}
    (filled : message ≠ "") (filled' : message' ≠ "") (solid : '-' ∉ badgeColor.toList)
    (solid' : '-' ∉ badgeColor'.toList) (o : BadgeOptions) :
    (badge label (some message) badgeColor o = badge label' (some message') badgeColor' o ↔
      color badgeColor = color badgeColor' ∧
        (Moved label.toList message.toList label'.toList message'.toList ∨
          Moved label'.toList message'.toList label.toList message.toList)) ∧
    ((∀ l ∈ [label, label'], l.toList.getLast? ≠ some '-') ∨
        (∀ m ∈ [message, message'], m.toList.head? ≠ some '-') →
      badge label (some message) badgeColor o = badge label' (some message') badgeColor' o →
      label = label' ∧ message = message' ∧ color badgeColor = color badgeColor') := by
  have iff := badge_eq_iff label label' filled filled' solid solid' o
  refine ⟨iff, fun apart same => ?_⟩
  obtain ⟨colors, moved⟩ := iff.1 same
  have fields : label.toList = label'.toList ∧ message.toList = message'.toList := by
    rcases moved with moved | moved
    · exact moved.eq (apart.imp (· label (by simp)) (· message' (by simp)))
    · exact (moved.eq (apart.imp (· label' (by simp)) (· message (by simp)))).imp Eq.symm Eq.symm
  exact ⟨String.toList_inj.1 fields.1, String.toList_inj.1 fields.2, colors⟩

/-- Two dashes, moved from a label to a message; and two fields that the URL tells apart. -/
theorem badge_dashes_moved :
    badge "a--" (some "b") "#4c1" { style := .text "flat" } =
        badge "a" (some "--b") "4c1" { style := .text "flat" } ∧
      badge "a-b" (some "c") "blue" {} ≠ badge "a" (some "b-c") "blue" {} :=
  ⟨(badge_told_apart (by decide) (by decide) (by decide) (by decide) _).1.2
      ⟨by decide, .inl ⟨2, rfl, rfl⟩⟩,
    fun same => absurd ((badge_told_apart (by decide) (by decide) (by decide) (by decide) _).2
      (.inl (by decide)) same).1 (by decide)⟩

/-- A dash at the end of a label is taken for one at the start of the message. -/
theorem badge_dash_ambiguous :
    badge "a-" (some "b") "blue" {} = "https://img.shields.io/badge/a---b-blue" ∧
      badge "a" (some "-b") "blue" {} = "https://img.shields.io/badge/a---b-blue" ∧
      "a-" ≠ "a" ∧ "b" ≠ "-b" := by
  decide

end ProfileReadme.Url
