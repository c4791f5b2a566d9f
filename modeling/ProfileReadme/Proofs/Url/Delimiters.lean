/-
What can end a link destination in the URLs of the image services. Of an encoded text only the
parentheses are left of all characters that a destination minds, and the color of a badge stands in
its path as it is; the rest of a URL has none of them. So where a destination ends depends on
these texts alone, in the order in which the URL holds them.
-/
import ProfileReadme.Block.Shown
import ProfileReadme.Proofs.Text.Substitution
import ProfileReadme.Proofs.Value.JsonText
import ProfileReadme.Text.Blank

namespace ProfileReadme.Url

def isParen (c : Char) : Bool := c = '(' || c = ')'

/-- A destination ends at a blank or a control character of ASCII. -/
def endsDestination (c : Char) : Bool := c.toNat ≤ 32 || c.toNat == 127

/-- What a destination minds: parentheses nest, a backslash takes what follows it, and blanks and
controls end it. -/
def isDelimiter (c : Char) : Bool :=
  isParen c || c = '\\' || Text.isBlank c || endsDestination c

def delimiters (s : String) : List Char := s.toList.filter isDelimiter

def parens (s : String) : List Char := s.toList.filter isParen

theorem isDelimiter_of_isParen {c : Char} (h : isParen c = true) : isDelimiter c = true := by
  simp [isDelimiter, h]

theorem delimiters_append (s t : String) : delimiters (s ++ t) = delimiters s ++ delimiters t := by
  simp [delimiters]

theorem parens_delimiters (s : String) : (delimiters s).filter isParen = parens s := by
  unfold delimiters parens
  rw [List.filter_filter]
  refine List.filter_congr fun c _ => ?_
  cases paren : isParen c with
  | false => rfl
  | true => rw [isDelimiter_of_isParen paren]; rfl

theorem delimiters_join {sep : String} (h : delimiters sep = []) :
    ∀ parts : List String, delimiters (Text.join sep parts) = parts.flatMap delimiters
  | [] => rfl
  | [part] => (List.append_nil _).symm
  | part :: next :: parts => by
    have later := delimiters_join h (next :: parts)
    unfold delimiters at *
    rw [Text.join_cons_toList, List.filter_append, List.filter_append, h, later]
    rfl

/-! ## Encoded texts -/

theorem toNat_lt_of_isPlain {c : Char} (h : isPlain c = true) : c.toNat < 128 := by
  delta isPlain Char.isAlphanum Char.isAlpha Char.isUpper Char.isLower Char.isDigit at h
  simp only [Bool.or_eq_true, Bool.and_eq_true, decide_eq_true_eq, UInt32.le_iff_toNat_le] at h
  rcases h with ((⟨-, h⟩ | ⟨-, h⟩) | ⟨-, h⟩) | h
  · exact Nat.lt_of_le_of_lt h (by decide)
  · exact Nat.lt_of_le_of_lt h (by decide)
  · exact Nat.lt_of_le_of_lt h (by decide)
  · simp only [List.mem_cons, List.not_mem_nil, or_false] at h
    rcases h with rfl | rfl | rfl | rfl | rfl | rfl | rfl | rfl | rfl <;> decide

/-- Of the characters that stand for themselves only parentheses are delimiters. -/
theorem isDelimiter_of_isPlain {c : Char} (h : isPlain c = true) :
    isDelimiter c = isParen c := by
  have all : ∀ n < 128, isPlain (Char.ofNat n) = true →
      isDelimiter (Char.ofNat n) = isParen (Char.ofNat n) := by
    decide +kernel
  have := all c.toNat (toNat_lt_of_isPlain h)
  rw [Char.ofNat_toNat] at this
  exact this h

theorem isPlain_of_isParen {c : Char} (h : isParen c = true) : isPlain c = true := by
  simp only [isParen, Bool.or_eq_true, decide_eq_true_eq] at h
  rcases h with rfl | rfl <;> rfl

theorem encodeByte_plain (b : UInt8) : ∀ c ∈ encodeByte b, isDelimiter c = false := by
  have digit (n : Nat) : isDelimiter (upperHex n) = false := by
    have all : ∀ n < 16, isDelimiter (Nat.digitChar n).toUpper = false := by decide
    exact all (n % 16) (Nat.mod_lt n (by decide))
  intro c hc
  simp only [encodeByte, List.mem_cons, List.not_mem_nil, or_false] at hc
  rcases hc with rfl | rfl | rfl
  · rfl
  · exact digit _
  · exact digit _

/-- Encoding leaves parentheses as they are, and no other delimiter. -/
theorem encodeChar_delimiters (c : Char) :
    (encodeChar c).filter isDelimiter = if isParen c then [c] else [] := by
  unfold encodeChar
  by_cases plain : isPlain c = true
  · rw [if_pos plain, List.filter_cons, isDelimiter_of_isPlain plain]
    rfl
  · have none : ¬ isParen c = true := fun paren => plain (isPlain_of_isParen paren)
    have coded : ∀ d ∈ (String.utf8EncodeChar c).flatMap encodeByte, isDelimiter d = false := by
      intro d hd
      obtain ⟨b, -, hd⟩ := List.mem_flatMap.1 hd
      exact encodeByte_plain b d hd
    rw [if_neg plain, if_neg none]
    exact List.filter_eq_nil_iff.2 fun d hd => by simp [coded d hd]

theorem delimiters_encode (s : String) : delimiters (encode s) = parens s := by
  unfold delimiters encode parens
  rw [String.toList_ofList]
  induction s.toList with
  | nil => rfl
  | cons c cs ih =>
    rw [List.flatMap_cons, List.filter_append, ih, encodeChar_delimiters, List.filter_cons]
    split <;> rfl

theorem parens_digits (n : Int) : parens (toString n) = [] := by
  refine List.filter_eq_nil_iff.2 fun c hc paren => ?_
  simp only [isParen, Bool.or_eq_true, decide_eq_true_eq] at paren
  rcases Json.mem_intText hc with rfl | digit
  · exact absurd paren (by decide)
  · rcases paren with rfl | rfl <;> exact absurd digit (by decide)

/-- An encoded value keeps the parentheses of its text. -/
theorem delimiters_encodeValue (v : Value) : delimiters (encodeValue v) = parens v.shown := by
  cases v with
  | bool b => cases b <;> decide
  | null | int | real | text | bytes | date | moment | list | object | record =>
    exact delimiters_encode _

/-! ## Queries -/

/-- The parameters that image services take. -/
def parameters : List String :=
  ["style", "logo", "logoColor", "labelColor", "username", "user", "theme", "show_icons",
    "include_all_commits", "count_private", "hide_border", "layout", "row", "column", "width",
    "center", "color", "size", "pause", "duration"]

theorem parameters_plain : ∀ k ∈ parameters, parens k = [] := by decide

theorem delimiters_write (q : Query) (known : ∀ e ∈ q, e.1 ∈ parameters) :
    delimiters q.write = q.flatMap fun e => parens e.2.shown := by
  unfold Query.write
  rw [delimiters_join rfl]
  induction q with
  | nil => rfl
  | cons e q ih =>
    obtain ⟨k, v⟩ := e
    obtain ⟨listed, others⟩ := List.forall_mem_cons.1 known
    have key : parens k = [] := parameters_plain k listed
    have later := ih others
    have sent : delimiters (encode k ++ "=" ++ encodeValue v) = parens v.shown := by
      rw [delimiters_append, delimiters_append, delimiters_encode, delimiters_encodeValue, key]
      rfl
    cases v with
    | null =>
      have none : parens Value.null.shown = [] := by decide
      rw [Query.parts, later, List.flatMap_cons, none, List.nil_append]
    | bool | int | real | text | bytes | date | moment | list | object | record =>
      rw [Query.parts, List.flatMap_cons, List.flatMap_cons, sent, later]
      exact nofun

theorem delimiters_withQuery {base : String} (q : Query) (known : ∀ e ∈ q, e.1 ∈ parameters) :
    delimiters (withQuery base q) =
      delimiters base ++ q.flatMap fun e => parens e.2.shown := by
  rw [← delimiters_write q known]
  unfold withQuery
  dsimp only
  split
  · rename_i empty
    rw [String.isEmpty_iff.1 empty]
    exact (List.append_nil _).symm
  · have mark : delimiters "?" = [] := by decide
    rw [delimiters_append, delimiters_append, mark, List.append_nil]

theorem delimiters_asked {base : String} {q : Query} (plain : delimiters base = [])
    (known : ∀ e ∈ q, e.1 ∈ parameters) :
    delimiters (withQuery base q) = q.flatMap fun e => parens e.2.shown := by
  rw [delimiters_withQuery q known, plain, List.nil_append]

/-! ## Services -/

/-- Doubling dashes and underscores makes no parenthesis. -/
theorem parens_replace {q : Char} (hq : isParen q = false) {old new : String}
    (one : old.toList = [q]) (hn : parens new = []) (s : String) :
    parens (Text.replace s old new) = parens s := by
  unfold parens
  rw [Text.replace_char s new one]
  induction s.toList with
  | nil => rfl
  | cons c cs ih =>
    rw [List.flatMap_cons, List.filter_append, ih]
    by_cases same : c = q
    · rw [if_pos same, same, List.filter_cons_of_neg (by simp [hq])]
      exact congrArg (· ++ cs.filter isParen) hn
    · rw [if_neg same, ← List.filter_append]
      rfl

theorem delimiters_badgeText (s : String) : delimiters (badgeText s) = parens s := by
  unfold badgeText
  rw [delimiters_encode, parens_replace (q := '_') rfl rfl rfl,
    parens_replace (q := '-') rfl rfl rfl]

theorem color_toList (c : String) :
    (color c).toList = c.toList ∨ c.toList = '#' :: (color c).toList := by
  unfold color
  split
  · rename_i cs eq
    rw [String.toList_ofList]
    exact .inr eq
  · exact .inl rfl

/-- A color stands in a path as it is. -/
theorem delimiters_color (c : String) : delimiters (color c) = delimiters c := by
  unfold delimiters
  rcases color_toList c with same | sign
  · rw [same]
  · rw [sign, List.filter_cons_of_neg (by decide)]

theorem parens_colorOption (c : Option String) :
    parens (colorOption c).shown = c.toList.flatMap parens := by
  cases c with
  | none => rfl
  | some c =>
    unfold colorOption
    dsimp only
    split
    · rename_i empty
      rw [String.isEmpty_iff.1 empty]
      rfl
    · show parens (color c) = parens c ++ []
      rw [← parens_delimiters, delimiters_color, parens_delimiters, List.append_nil]

theorem parens_ofText (s : Option String) : parens (ofText s).shown = s.toList.flatMap parens := by
  cases s with
  | none => rfl
  | some s => exact (List.append_nil _).symm

theorem parens_whenOn (b : Bool) : parens (whenOn b).shown = [] := by
  cases b <;> rfl

theorem delimiters_badgePath (label : String) (message : Option String) (badgeColor : String) :
    delimiters (badgePath label message badgeColor) =
      parens label ++ message.toList.flatMap parens ++ delimiters badgeColor := by
  unfold badgePath
  dsimp only
  rw [delimiters_join (by decide), List.cons_append, List.flatMap_cons, List.flatMap_append,
    delimiters_badgeText, List.flatMap_singleton, delimiters_color, List.append_assoc]
  congr 2
  cases message with
  | none => rfl
  | some m =>
    by_cases empty : m.isEmpty = true
    · rw [String.isEmpty_iff.1 empty]
      rfl
    · simp [empty, delimiters_badgeText]

theorem delimiters_badge (label : String) (message : Option String) (badgeColor : String)
    (o : BadgeOptions) : delimiters (badge label message badgeColor o) =
      parens label ++ message.toList.flatMap parens ++ delimiters badgeColor ++
        (parens o.style.shown ++ parens o.logo.shown ++ o.logoColor.toList.flatMap parens ++
          o.labelColor.toList.flatMap parens) := by
  unfold badge
  have base : delimiters (badgeService ++ "/") = [] := by decide
  rw [delimiters_withQuery _ (by simp [parameters]), delimiters_append, base,
    delimiters_badgePath]
  simp only [List.flatMap_cons, List.flatMap_nil, parens_colorOption, List.append_nil,
    List.append_assoc, List.nil_append]

theorem platforms_plain : ∀ e ∈ platforms, parens e.2.1 = [] ∧ delimiters e.2.2 = [] := by decide

theorem delimiters_socialBadge (platform : String) (label : Option String) :
    delimiters (socialBadge platform label) = parens (Text.filledOr label platform) := by
  obtain ⟨badge, eq⟩ : ∃ badge, badge = (platforms.lookup platform).getD ("link", "gray") := ⟨_, rfl⟩
  -- logos and colors are those of the table
  have known : parens badge.1 = [] ∧ delimiters badge.2 = [] := by
    cases found : platforms.lookup platform with
    | none => rw [eq, found]; decide
    | some b =>
      obtain ⟨front, back, whole, -⟩ := List.lookup_eq_some_iff.1 found
      rw [eq, found]
      exact platforms_plain (platform, b) (by simp [whole])
  have fixed : delimiters (badgeService ++ "/") = [] ∧ delimiters "-" = [] ∧
      parens "for-the-badge" = [] ∧ parens "white" = [] := by decide
  unfold socialBadge
  dsimp only
  rw [← eq, delimiters_withQuery _ (by simp [parameters]),
    delimiters_append, delimiters_append, delimiters_append, delimiters_badgeText]
  simp only [List.flatMap_cons, List.flatMap_nil, Value.shown, fixed, known, List.nil_append,
    List.append_nil]
  -- an empty label is as good as none
  cases label with
  | none => rfl
  | some l => simp [Text.filledOr_some]

theorem delimiters_contributionGraph (username theme : Value) (hideBorder : Bool) :
    delimiters (contributionGraph username theme hideBorder) =
      parens username.shown ++ parens theme.shown := by
  unfold contributionGraph
  rw [delimiters_asked (by decide +kernel) (by simp [parameters])]
  simp [parens_whenOn]

theorem parens_graphTheme (theme : String) :
    parens (graphTheme (.text theme)).shown = parens theme := by
  unfold graphTheme
  split
  · rename_i eq
    cases eq
    decide
  · rfl

/-- Of every card the account and the theme are sent. -/
theorem delimiters_statsCard (username theme : String) (card : StatCard) (showIcons hideBorder
    includeAllCommits countPrivate : Bool) :
    delimiters (statsCard (.text username) card
      { theme := .text theme, showIcons := .bool showIcons, hideBorder, includeAllCommits,
        countPrivate }) = parens username ++ parens theme := by
  have icons : parens (Value.bool showIcons).shown = [] := by cases showIcons <;> decide
  have compact : parens (Value.text "compact").shown = [] := by decide
  have number (n : Int) : parens (Value.int n).shown = [] := parens_digits n
  have text (s : String) : parens (Value.text s).shown = parens s := rfl
  unfold statsCard
  cases card with
  | stats | topLangs | streak | trophies | profileSummary =>
    dsimp only
    rw [delimiters_asked (by decide +kernel) (by simp [parameters])]
    simp [icons, compact, number, text, parens_whenOn]
  | activityGraph => 
    dsimp only
    rw [delimiters_contributionGraph, parens_graphTheme]
    rfl

theorem delimiters_typing (lines : List String) (o : TypingOptions) :
    delimiters (typing lines o) = lines.flatMap parens ++ o.color.toList.flatMap parens := by
  have number (n : Option Int) : parens (ofInt n).shown = [] := by
    cases n with
    | none => decide
    | some n => exact parens_digits n
  have width (n : Int) : parens (Value.int n).shown = [] := parens_digits n
  have fixed : delimiters (typingService ++ "?lines=") = [] ∧ delimiters "&" = [] := by decide
  unfold typing
  dsimp only
  rw [delimiters_append, delimiters_append, delimiters_append,
    delimiters_write _ (by simp [parameters]), delimiters_join (by decide)]
  simp [fixed, number, width, parens_whenOn, parens_colorOption, List.flatMap_map,
    delimiters_encode]

end ProfileReadme.Url
