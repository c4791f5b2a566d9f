/-
The text of a plain value denotes that value: the reader is followed along the text that the writer
lays out, one level of nesting at a time.
-/
import ProfileReadme.Proofs.Number.Digits
import ProfileReadme.Proofs.Text.Join
import ProfileReadme.Proofs.Value.Plain
import ProfileReadme.Value.JsonReader
import ProfileReadme.Value.JsonWriter
import Mathlib.Tactic.IntervalCases

namespace ProfileReadme

namespace Json

/-! ## Blanks -/

theorem skipSpace_cons {c : Char} (h : isSpace c = false) (cs : List Char) :
    skipSpace (c :: cs) = c :: cs := by
  unfold skipSpace
  rw [List.dropWhile_cons_of_neg (by simp [h])]

theorem skipSpace_append {gap : List Char} (h : ∀ c ∈ gap, isSpace c = true) (cs : List Char) :
    skipSpace (gap ++ cs) = skipSpace cs :=
  List.dropWhile_append_of_pos h

theorem isSpace_newLine (level : Nat) : ∀ c ∈ (newLine level).toList, isSpace c = true := by
  intro c hc
  rw [newLine, String.toList_append, List.mem_append] at hc
  rcases hc with hc | hc
  · exact List.all_eq_true.1 (by decide : "\n".toList.all isSpace = true) c hc
  · rw [Text.repeated, Text.join_toList, List.mem_flatMap] at hc
    obtain ⟨part, mem, hc⟩ := hc
    rw [List.eq_of_mem_replicate mem] at hc
    exact List.all_eq_true.1 (by decide : "  ".toList.all isSpace = true) c hc

/-- What may follow a value that stands on a page: the end, a comma or the end of the line. -/
def Ends (rest : List Char) : Prop := ∀ c ∈ rest.head?, c = ',' ∨ c = '\n'

theorem ends_newLine (level : Nat) (cs : List Char) : Ends ((newLine level).toList ++ cs) := by
  intro c hc
  rw [newLine, String.toList_append] at hc
  cases hc
  exact .inr rfl

/-! ## Strings -/

theorem takeEscaped_control : ∀ n < 32, ∀ rest : List Char,
    takeEscaped (Text.hex 4 n ++ rest) = some (Char.ofNat n, rest) := by
  intro n hn rest
  interval_cases n <;> rfl

theorem takeString_char (fuel : Nat) (done : List Char) (c : Char) (cs : List Char) :
    takeString (fuel + 1) done (writeChar page c ++ cs) = takeString fuel (c :: done) cs := by
  unfold writeChar
  split
  · rfl
  · rfl
  · rfl
  · rfl
  · rfl
  · rfl
  · rfl
  · rename_i quote backslash _ _ _ _ _
    dsimp only
    split
    · rename_i control
      show (takeEscaped (Text.hex 4 c.toNat ++ cs) >>= fun p =>
        takeString fuel (p.1 :: done) p.2) = _
      rw [takeEscaped_control _ control, Char.ofNat_toNat]
      rfl
    · rename_i shown
      show takeString (fuel + 1) done (c :: cs) = _
      conv_lhs => unfold takeString
      rw [if_neg quote, if_neg backslash, if_neg shown]

theorem takeString_chars (cs rest : List Char) : ∀ {fuel : Nat} (done : List Char),
    cs.length < fuel →
    takeString fuel done (cs.flatMap (writeChar page) ++ '"' :: rest) =
      some (String.ofList (done.reverse ++ cs), rest) := by
  induction cs with
  | nil =>
    intro fuel done h
    obtain ⟨fuel, rfl⟩ : ∃ k, fuel = k + 1 := ⟨fuel - 1, by omega⟩
    rw [List.append_nil]
    rfl
  | cons c cs ih =>
    intro fuel done h
    obtain ⟨fuel, rfl⟩ : ∃ k, fuel = k + 1 := ⟨fuel - 1, by omega⟩
    rw [List.flatMap_cons, List.append_assoc, takeString_char,
      ih (c :: done) (Nat.lt_of_succ_lt_succ h), List.reverse_cons, List.append_assoc]
    rfl

theorem writeChar_ne_nil (style : Style) (c : Char) : writeChar style c ≠ [] := by
  unfold writeChar
  split <;> try exact List.cons_ne_nil _ _
  dsimp only
  split
  · exact List.cons_ne_nil _ _
  · split
    · split <;> exact List.cons_ne_nil _ _
    · exact List.cons_ne_nil _ _

theorem length_le_flatMap {f : Char → List Char} (h : ∀ c, f c ≠ []) (cs : List Char) :
    cs.length ≤ (cs.flatMap f).length := by
  induction cs with
  | nil => exact Nat.le_refl _
  | cons c cs ih =>
    have := List.length_pos_iff.2 (h c)
    rw [List.flatMap_cons, List.length_append, List.length_cons]
    omega

/-- A written string after its opening quote is read to its end. -/
theorem takeString_writeString (s : String) (rest : List Char) :
    takeString ((s.toList.flatMap (writeChar page) ++ '"' :: rest).length + 1) []
      (s.toList.flatMap (writeChar page) ++ '"' :: rest) = some (s, rest) := by
  have := length_le_flatMap (writeChar_ne_nil page) s.toList
  rw [takeString_chars _ _ _ (by rw [List.length_append]; omega)]
  simp

theorem writeString_toList (s : String) (rest : List Char) :
    (writeString page s).toList ++ rest =
      '"' :: (s.toList.flatMap (writeChar page) ++ '"' :: rest) := by
  simp [writeString]

/-! ## Numbers -/

theorem intText_toList (n : Int) : (toString n).toList =
    (if decide (n < 0) then ['-'] else []) ++ Decimal.digitChars n.natAbs := by
  cases n with
  | ofNat n =>
    show (Nat.repr n).toList = _
    rw [Nat.repr_eq_ofList_toDigits, if_neg (by simp)]
    simp [Decimal.digitChars]
  | negSucc n =>
    show ("-" ++ Nat.repr (n + 1)).toList = _
    rw [Nat.repr_eq_ofList_toDigits, if_pos (by simp)]
    simp [Decimal.digitChars]

theorem mem_intText {n : Int} {c : Char} (h : c ∈ (toString n).toList) :
    c = '-' ∨ c.isDigit = true := by
  rw [intText_toList] at h
  rcases List.mem_append.1 h with sign | digit
  · split at sign
    · exact .inl (List.mem_singleton.1 sign)
    · cases sign
  · exact .inr (Decimal.isDigit_of_mem_digitChars digit)

theorem takeWhile_digits {ds rest : List Char} (digits : ∀ c ∈ ds, c.isDigit = true)
    (ends : Ends rest) : (ds ++ rest).takeWhile Char.isDigit = ds ∧
      (ds ++ rest).dropWhile Char.isDigit = rest := by
  refine Text.takeWhile_append_stop digits fun c hc => ?_
  rcases ends c hc with rfl | rfl <;> rfl

theorem isDigit_ne {c d : Char} (h : c.isDigit = true) (hd : d.isDigit = false) : c ≠ d := by
  rintro rfl
  rw [h] at hd
  cases hd

/-- Digits behind an optional minus are read as a whole number. -/
theorem takeNumber_digits (negative : Bool) {ds rest : List Char}
    (digits : ∀ c ∈ ds, c.isDigit = true) (filled : ds ≠ [])
    (leading : ∀ {es}, ds = '0' :: es → es = []) (ends : Ends rest) :
    takeNumber ((if negative then ['-'] else []) ++ ds ++ rest) =
      some (.int (Decimal.Numeral.toInt ⟨negative, ds, [], 0, false⟩), rest) := by
  obtain ⟨taken, left⟩ := takeWhile_digits digits ends
  obtain ⟨d, es, rfl⟩ := List.exists_cons_of_ne_nil filled
  have positive : (d == '-') = false :=
    beq_false_of_ne (isDigit_ne (digits d (List.mem_cons_self ..)) rfl)
  have single : ((d :: es).isEmpty ||
      ((d :: es).head? == some '0' && decide (1 < (d :: es).length))) = false := by
    by_cases zero : d = '0'
    · subst zero
      rw [leading rfl]
      rfl
    · simp [zero]
  cases negative
  all_goals
    unfold takeNumber
    simp only [Bool.false_eq_true, if_false, if_true, List.nil_append, List.cons_append,
      List.head?_cons, Option.some_beq_some, positive, beq_self_eq_true, List.drop_succ_cons,
      List.drop_zero]
    rw [← List.cons_append, taken, left, single]
    rcases rest with _ | ⟨c, cs⟩
    · rfl
    · rcases ends c rfl with rfl | rfl <;> rfl

theorem takeNumber_text (n : Int) {rest : List Char} (ends : Ends rest) :
    takeNumber ((toString n).toList ++ rest) = some (.int n, rest) := by
  have value :
      Decimal.Numeral.toInt ⟨decide (n < 0), Decimal.digitChars n.natAbs, [], 0, false⟩ = n := by
    unfold Decimal.Numeral.toInt
    dsimp only
    rw [Decimal.ofDigits_digitChars]
    by_cases negative : n < 0
    · rw [if_pos (decide_eq_true negative)]
      omega
    · rw [if_neg (by simpa using negative)]
      omega
  rw [intText_toList, takeNumber_digits _ (fun c hc => Decimal.isDigit_of_mem_digitChars hc)
    (Decimal.digitChars_ne_nil _) Decimal.digitChars_leading ends, value]

/-! ## Values -/

theorem after?_ne {a c : Char} (h : a ≠ c) (as cs : List Char) :
    Text.after? (a :: as) (c :: cs) = none := by
  unfold Text.after?
  rw [if_neg (by simp [List.isPrefixOf, h])]

theorem takeLiteral_none {cs : List Char}
    (h : ∀ p ∈ literals, Text.after? p.1.toList cs = none) : takeLiteral cs = none :=
  List.findSome?_eq_none_iff.2 fun p hp => by simp [h p hp]

/-- No literal starts with a digit, with or without a minus. -/
theorem takeLiteral_number (negative : Bool) {d : Char} (digit : d.isDigit = true)
    (cs : List Char) : takeLiteral ((if negative then ['-'] else []) ++ d :: cs) = none := by
  apply takeLiteral_none
  have ne {c : Char} (h : c.isDigit = false) : c ≠ d := (isDigit_ne digit h).symm
  cases negative with
  | false =>
    have none (c : Char) (w : List Char) (h : c.isDigit = false) :
        Text.after? (c :: w) (d :: cs) = .none := after?_ne (ne h) ..
    simp only [literals, List.forall_mem_cons]
    exact ⟨none 'n' _ rfl, none 't' _ rfl, none 'f' _ rfl, none 'N' _ rfl, none 'I' _ rfl,
      none '-' _ rfl, fun p hp => by cases hp⟩
  | true =>
    have none (c : Char) (w : List Char) (h : c ≠ '-') :
        Text.after? (c :: w) ('-' :: d :: cs) = .none := after?_ne h ..
    have minus (w : List Char) : Text.after? ('-' :: 'I' :: w) ('-' :: d :: cs) = .none := by
      unfold Text.after?
      rw [if_neg (by simp [List.isPrefixOf, ne (c := 'I') rfl])]
    simp only [literals, List.forall_mem_cons]
    exact ⟨none 'n' _ (by decide), none 't' _ (by decide), none 'f' _ (by decide),
      none 'N' _ (by decide), none 'I' _ (by decide), minus _, fun p hp => by cases hp⟩

/-- A text that is read as a value wherever it stands on a page: behind blanks, and before what
may follow a value. -/
structure Reads (room : Nat) (v : Value) (text : List Char) : Prop where
  starts : ∃ c cs, text = c :: cs ∧ isSpace c = false ∧ c ≠ ']'
  reads : ∀ {fuel : Nat} {gap rest : List Char}, text.length ≤ fuel →
    (∀ c ∈ gap, isSpace c = true) → Ends rest →
    takeValue fuel room (gap ++ (text ++ rest)) = some (v, rest)

/-- A value is read by what the reader does at its first character. -/
theorem Reads.of_take {room : Nat} {v : Value} {c : Char} {cs : List Char}
    (shown : isSpace c = false) (closes : c ≠ ']')
    (take : ∀ {fuel : Nat} {rest front : List Char}, cs.length ≤ fuel → Ends rest →
      skipSpace front = c :: (cs ++ rest) → takeValue (fuel + 1) room front = some (v, rest)) :
    Reads room v (c :: cs) where
  starts := ⟨c, cs, rfl, shown, closes⟩
  reads {fuel gap rest} long blank ends := by
    obtain ⟨fuel, rfl⟩ : ∃ k, fuel = k + 1 := ⟨fuel - 1, by rw [List.length_cons] at long; omega⟩
    refine take (by rw [List.length_cons] at long; omega) ends ?_
    rw [skipSpace_append blank, List.cons_append, skipSpace_cons shown]

/-- Where no string, list or object starts, a literal or a number is read. -/
theorem takeValue_scalar {c : Char} (string : c ≠ '"') (list : c ≠ '[') (object : c ≠ '\x7b')
    (fuel room : Nat) {front cs : List Char} (h : skipSpace front = c :: cs) :
    takeValue (fuel + 1) room front = (takeLiteral (c :: cs)).or (takeNumber (c :: cs)) := by
  unfold takeValue
  rw [h]
  split
  · rename_i h; cases h; exact absurd rfl string
  · rename_i h; cases h; exact absurd rfl list
  · rename_i h; cases h; exact absurd rfl object
  · rfl

theorem reads_literal (room : Nat) {v : Value} {c : Char} {cs : List Char}
    (start : c ∈ ['n', 't', 'f'])
    (word : ∀ rest, takeLiteral (c :: (cs ++ rest)) = some (v, rest)) : Reads room v (c :: cs) := by
  obtain ⟨shown, closes, string, list, object⟩ : isSpace c = false ∧ c ≠ ']' ∧ c ≠ '"' ∧
      c ≠ '[' ∧ c ≠ '\x7b' := by
    simp only [List.mem_cons, List.not_mem_nil, or_false] at start
    rcases start with rfl | rfl | rfl <;> decide
  refine .of_take shown closes fun {_ rest _} _ _ front => ?_
  rw [takeValue_scalar string list object _ _ front, word rest]
  rfl

theorem reads_null (room : Nat) : Reads room .null "null".toList :=
  reads_literal room (c := 'n') (by decide) fun _ => rfl

theorem reads_bool (room : Nat) (b : Bool) :
    Reads room (.bool b) (writeAt page 0 (.bool b)).toList := by
  cases b with
  | true => exact reads_literal room (c := 't') (by decide) fun _ => rfl
  | false => exact reads_literal room (c := 'f') (by decide) fun _ => rfl

theorem reads_int (room : Nat) (n : Int) : Reads room (.int n) (toString n).toList := by
  obtain ⟨d, ds, hd⟩ := List.exists_cons_of_ne_nil (Decimal.digitChars_ne_nil n.natAbs)
  have digit : d.isDigit = true :=
    Decimal.isDigit_of_mem_digitChars (n := n.natAbs) (by rw [hd]; exact List.mem_cons_self ..)
  have text := intText_toList n
  rw [hd] at text
  -- the text starts with a minus or a digit, and what is no literal is a number
  obtain ⟨c, cs, first, starts⟩ : ∃ c cs, (toString n).toList = c :: cs ∧
      (c = '-' ∨ c.isDigit = true) := by
    rw [text]
    cases decide (n < 0) with
    | true => exact ⟨'-', d :: ds, rfl, .inl rfl⟩
    | false => exact ⟨d, ds, rfl, .inr digit⟩
  have ne {x : Char} (minus : x ≠ '-') (h : x.isDigit = false) : c ≠ x := by
    rcases starts with rfl | digit
    · exact minus.symm
    · exact isDigit_ne digit h
  have shown : isSpace c = false := by
    simp [isSpace, ne (x := ' ') (by decide) rfl, ne (x := '\n') (by decide) rfl,
      ne (x := '\r') (by decide) rfl, ne (x := '\t') (by decide) rfl]
  rw [first]
  refine .of_take shown (ne (by decide) rfl) fun {fuel rest front} _ ends h => ?_
  rw [takeValue_scalar (ne (by decide) rfl) (ne (by decide) rfl) (ne (by decide) rfl) _ _ h]
  have literal : takeLiteral (c :: (cs ++ rest)) = none := by
    rw [← List.cons_append, ← first, text, List.append_assoc, List.cons_append]
    exact takeLiteral_number _ digit _
  have number : takeNumber (c :: (cs ++ rest)) = some (.int n, rest) := by
    rw [← List.cons_append, ← first]
    exact takeNumber_text n ends
  rw [literal, number]
  rfl

theorem reads_string (room : Nat) (s : String) :
    Reads room (.text s) (writeString page s).toList := by
  have text : (writeString page s).toList =
      '"' :: (s.toList.flatMap (writeChar page) ++ ['"']) := by
    simpa using writeString_toList s []
  rw [text]
  refine .of_take rfl (by decide) fun {fuel rest front} _ _ h => ?_
  rw [List.append_assoc, List.singleton_append] at h
  unfold takeValue
  rw [h]
  show (takeString _ [] _).map _ = _
  rw [takeString_writeString]
  rfl

/-! ## Lists and objects -/

/-- What stands between two parts on a page. -/
theorem separator_toList (level : Nat) (cs : List Char) :
    ("," ++ newLine level).toList ++ cs = ',' :: ((newLine level).toList ++ cs) := by
  rw [String.toList_append]
  rfl

/-- What stands on a page between two brackets. -/
def inner (level : Nat) (parts : List String) : List Char :=
  (newLine (level + 1)).toList ++
    ((Text.join ("," ++ newLine (level + 1)) parts).toList ++ (newLine level).toList)

theorem writeList_toList (level : Nat) (v : Value) (vs : List Value) :
    (writeAt page level (.list (v :: vs))).toList =
      '[' :: (inner level (writeItems page (level + 1) (v :: vs)) ++ [']']) := by
  simp [writeAt, writeItems, bracketed, page, inner]

theorem writeObject_toList (level : Nat) (f : Key × Value) (fs : Fields) :
    (writeAt page level (.object (f :: fs))).toList =
      '\x7b' :: (inner level (writeFields page (level + 1) (f :: fs)) ++ ['\x7d']) := by
  simp [writeAt, writeFields, bracketed, page, inner]

theorem ends_comma (cs : List Char) : Ends (',' :: cs) := by
  intro c hc
  cases hc
  exact .inl rfl

/-! One item or field, and what its end says -/

theorem takeItems_more {fuel room : Nat} {done : List Value} {cs rest rest' : List Char} {v : Value}
    (item : takeValue fuel room cs = some (v, rest)) (h : skipSpace rest = ',' :: rest') :
    takeItems (fuel + 1) room done cs = takeItems fuel room (v :: done) rest' := by
  conv_lhs => unfold takeItems
  rw [item, Option.bind_eq_bind, Option.bind_some]
  dsimp only
  rw [h]
  rfl

theorem takeItems_last {fuel room : Nat} {done : List Value} {cs rest rest' : List Char} {v : Value}
    (item : takeValue fuel room cs = some (v, rest)) (h : skipSpace rest = ']' :: rest') :
    takeItems (fuel + 1) room done cs = some (.list (v :: done).reverse, rest') := by
  unfold takeItems
  rw [item, Option.bind_eq_bind, Option.bind_some]
  dsimp only
  rw [h]
  rfl

/-- What a field is read from: a key in quotes, a colon and a value. -/
def TakesField (fuel room : Nat) (cs : List Char) (name : String) (v : Value) (rest : List Char) :
    Prop :=
  ∃ quoted colon value, skipSpace cs = '"' :: quoted ∧
    takeString (quoted.length + 1) [] quoted = some (name, colon) ∧
    Text.after? [':'] (skipSpace colon) = some value ∧
    takeValue fuel room value = some (v, rest)

/-- After a field, a comma or the closing brace says what follows. -/
theorem takeFields_field {fuel room : Nat} {done : List (Key × Value)} {cs rest : List Char}
    {name : String} {v : Value} (field : TakesField fuel room cs name v rest) :
    takeFields (fuel + 1) room done cs = match skipSpace rest with
      | ',' :: cs => takeFields fuel room ((.name name, v) :: done) cs
      | '\x7d' :: cs => some (.object (Fields.ofPairs ((.name name, v) :: done).reverse), cs)
      | _ => none := by
  obtain ⟨quoted, colon, value, h1, h2, h3, h4⟩ := field
  conv_lhs => unfold takeFields
  rw [h1]
  show (takeString (quoted.length + 1) [] quoted >>= fun p => _) = _
  rw [h2]
  show (Text.after? [':'] (skipSpace colon) >>= fun p => _) = _
  rw [h3]
  show (takeValue fuel room value >>= fun p => _) = _
  rw [h4]
  rfl

theorem takeFields_more {fuel room : Nat} {done : List (Key × Value)} {cs rest rest' : List Char}
    {name : String} {v : Value} (field : TakesField fuel room cs name v rest)
    (h : skipSpace rest = ',' :: rest') :
    takeFields (fuel + 1) room done cs = takeFields fuel room ((.name name, v) :: done) rest' := by
  rw [takeFields_field field, h]
  rfl

theorem takeFields_last {fuel room : Nat} {done : List (Key × Value)} {cs rest rest' : List Char}
    {name : String} {v : Value} (field : TakesField fuel room cs name v rest)
    (h : skipSpace rest = '\x7d' :: rest') :
    takeFields (fuel + 1) room done cs =
      some (.object (Fields.ofPairs ((.name name, v) :: done).reverse), rest') := by
  rw [takeFields_field field, h]
  rfl

/-! All items or fields -/

theorem writeItems_cons_toList (level : Nat) (v v' : Value) (vs : List Value) :
    (Text.join ("," ++ newLine level) (writeItems page level (v :: v' :: vs))).toList =
      (writeAt page level v).toList ++ (',' :: ((newLine level).toList ++
        (Text.join ("," ++ newLine level) (writeItems page level (v' :: vs))).toList)) := by
  rw [← separator_toList]
  exact Text.join_cons_toList ..

theorem takeItems_text {room level : Nat} (outer : Nat) {v : Value} {vs : List Value}
    (h : ∀ u ∈ v :: vs, Reads room u (writeAt page level u).toList) (fuel : Nat)
    (gap rest : List Char) (done : List Value)
    (long : (Text.join ("," ++ newLine level)
      (writeItems page level (v :: vs))).toList.length < fuel)
    (blank : ∀ c ∈ gap, isSpace c = true) :
    takeItems fuel room done (gap ++
      ((Text.join ("," ++ newLine level) (writeItems page level (v :: vs))).toList ++
        ((newLine outer).toList ++ ']' :: rest))) =
      some (.list (done.reverse ++ v :: vs), rest) := by
  induction vs generalizing v fuel gap done with
  | nil =>
    obtain ⟨fuel, rfl⟩ : ∃ k, fuel = k + 1 := ⟨fuel - 1, by omega⟩
    have item := (h v (List.mem_cons_self ..)).reads (Nat.le_of_lt_succ long) blank
      (ends_newLine outer (']' :: rest))
    have closes := skipSpace_append (isSpace_newLine outer) (']' :: rest)
    rw [skipSpace_cons rfl] at closes
    rw [← List.reverse_cons]
    exact takeItems_last item closes
  | cons v' vs ih =>
    obtain ⟨fuel, rfl⟩ : ∃ k, fuel = k + 1 := ⟨fuel - 1, by omega⟩
    obtain ⟨first, others⟩ := List.forall_mem_cons.1 h
    rw [writeItems_cons_toList] at long ⊢
    simp only [List.length_append, List.length_cons] at long
    rw [List.append_assoc, List.cons_append, List.append_assoc]
    refine (takeItems_more (first.reads (by omega) blank (ends_comma _))
      (skipSpace_cons rfl _)).trans ?_
    rw [ih others _ _ (v :: done) (by omega) (isSpace_newLine level), List.reverse_cons,
      List.append_assoc]
    rfl

/-- A key and its value as they stand on a page. -/
def fieldText (level : Nat) (name : String) (v : Value) : String :=
  writeString page name ++ ": " ++ writeAt page level v

theorem fieldText_toList (level : Nat) (name : String) (v : Value) (cs : List Char) :
    (fieldText level name v).toList ++ cs =
      '"' :: (name.toList.flatMap (writeChar page) ++ '"' :: ':' :: ' ' ::
        ((writeAt page level v).toList ++ cs)) := by
  simp [fieldText, writeString]

theorem takesField_text {room level : Nat} {name : String} {v : Value}
    (h : Reads room v (writeAt page level v).toList) {fuel : Nat} {gap rest : List Char}
    (long : (fieldText level name v).toList.length ≤ fuel) (blank : ∀ c ∈ gap, isSpace c = true)
    (ends : Ends rest) :
    TakesField fuel room (gap ++ ((fieldText level name v).toList ++ rest)) name v rest := by
  have short : (writeAt page level v).toList.length ≤ fuel := by
    simp only [fieldText, String.toList_append, List.length_append] at long
    omega
  rw [fieldText_toList]
  refine ⟨_, ':' :: ' ' :: ((writeAt page level v).toList ++ rest),
    ' ' :: ((writeAt page level v).toList ++ rest),
    (skipSpace_append blank _).trans (skipSpace_cons rfl _), takeString_writeString .., ?_, ?_⟩
  · rw [skipSpace_cons rfl]
    rfl
  · show takeValue fuel room ([' '] ++ _) = _
    exact h.reads short (List.forall_mem_singleton.2 rfl) ends

theorem writeFields_cons_toList (level : Nat) (name : String) (v : Value) (f : Key × Value)
    (fs : Fields) :
    (Text.join ("," ++ newLine level)
        (writeFields page level ((.name name, v) :: f :: fs))).toList =
      (fieldText level name v).toList ++ (',' :: ((newLine level).toList ++
        (Text.join ("," ++ newLine level) (writeFields page level (f :: fs))).toList)) := by
  rw [← separator_toList]
  exact Text.join_cons_toList ..

theorem takeFields_text {room level : Nat} (outer : Nat) {name : String} {v : Value} {fs : Fields}
    (h : ∀ f ∈ (Key.name name, v) :: fs, Reads room f.2 (writeAt page level f.2).toList)
    (names : ∀ f ∈ fs, ∃ name, f.1 = .name name) (fuel : Nat) (gap rest : List Char)
    (done : List (Key × Value))
    (long : (Text.join ("," ++ newLine level)
      (writeFields page level ((.name name, v) :: fs))).toList.length < fuel)
    (blank : ∀ c ∈ gap, isSpace c = true) :
    takeFields fuel room done (gap ++
      ((Text.join ("," ++ newLine level) (writeFields page level ((.name name, v) :: fs))).toList ++
        ((newLine outer).toList ++ '\x7d' :: rest))) =
      some (.object (Fields.ofPairs (done.reverse ++ (.name name, v) :: fs)), rest) := by
  induction fs generalizing name v fuel gap done with
  | nil =>
    obtain ⟨fuel, rfl⟩ : ∃ k, fuel = k + 1 := ⟨fuel - 1, by omega⟩
    have closes := skipSpace_append (isSpace_newLine outer) ('\x7d' :: rest)
    rw [skipSpace_cons rfl] at closes
    rw [← List.reverse_cons]
    exact takeFields_last (takesField_text (h _ (List.mem_cons_self ..)) (Nat.le_of_lt_succ long)
      blank (ends_newLine _ _)) closes
  | cons f fs ih =>
    obtain ⟨fuel, rfl⟩ : ∃ k, fuel = k + 1 := ⟨fuel - 1, by omega⟩
    obtain ⟨first, others⟩ := List.forall_mem_cons.1 h
    have first : Reads room v (writeAt page level v).toList := first
    obtain ⟨k, v'⟩ := f
    obtain ⟨⟨name', rfl : k = _⟩, named⟩ := List.forall_mem_cons.1 names
    rw [writeFields_cons_toList] at long ⊢
    simp only [List.length_append, List.length_cons] at long
    rw [List.append_assoc, List.cons_append, List.append_assoc]
    refine (takeFields_more (takesField_text first (by omega) blank (ends_comma _))
      (skipSpace_cons rfl _)).trans ?_
    rw [ih others named _ _ _ (by omega) (isSpace_newLine level), List.reverse_cons,
      List.append_assoc]
    rfl

/-! Brackets -/

theorem takeValue_list (fuel room : Nat) {front cs cs' : List Char} {c : Char}
    (opens : skipSpace front = '[' :: cs) (filled : skipSpace cs = c :: cs') (closes : c ≠ ']') :
    takeValue (fuel + 1) (room + 1) front = takeItems fuel room [] (c :: cs') := by
  conv_lhs => unfold takeValue
  simp only [opens, filled]
  split
  · rename_i h; cases h; exact absurd rfl closes
  · rfl

theorem takeValue_object (fuel room : Nat) {front cs cs' : List Char}
    (opens : skipSpace front = '\x7b' :: cs) (filled : skipSpace cs = '"' :: cs') :
    takeValue (fuel + 1) (room + 1) front = takeFields fuel room [] ('"' :: cs') := by
  conv_lhs => unfold takeValue
  simp only [opens, filled]
  rfl

theorem reads_list {room level : Nat} {items : List Value}
    (h : ∀ v ∈ items, Reads room v (writeAt page (level + 1) v).toList) :
    Reads (room + 1) (.list items) (writeAt page level (.list items)).toList := by
  cases items with
  | nil =>
    have text : (writeAt page level (.list [])).toList = ['[', ']'] := by
      simp [writeAt, writeItems, bracketed]
    rw [text]
    refine .of_take rfl (by decide) fun _ _ front => ?_
    unfold takeValue
    rw [front]
    rfl
  | cons v vs =>
    rw [writeList_toList]
    refine .of_take rfl (by decide) fun {fuel rest front} long ends opens => ?_
    simp only [inner, List.length_append, List.length_singleton] at long
    simp only [inner, List.append_assoc, List.singleton_append] at opens
    obtain ⟨c, cs, first, shown, closes⟩ := (h v (List.mem_cons_self ..)).starts
    have all := takeItems_text level h fuel [] rest [] (by omega)
      (fun _ none => by cases none)
    -- the first item does not start with the bracket of an empty list
    obtain ⟨cs', starts⟩ : ∃ cs', (Text.join ("," ++ newLine (level + 1))
        (writeItems page (level + 1) (v :: vs))).toList = c :: cs' := by
      cases vs with
      | nil => exact ⟨cs, first⟩
      | cons v' vs => exact ⟨_, by rw [writeItems_cons_toList, first, List.cons_append]⟩
    rw [starts] at opens all
    rw [takeValue_list fuel room opens (by
      rw [skipSpace_append (isSpace_newLine _), List.cons_append, skipSpace_cons shown]) closes]
    exact all

theorem reads_object {room level : Nat} {fields : Fields} {names : List String}
    (distinct : names.Nodup) (named : fields.map Prod.fst = names.map Key.name)
    (h : ∀ f ∈ fields, Reads room f.2 (writeAt page (level + 1) f.2).toList) :
    Reads (room + 1) (.object fields) (writeAt page level (.object fields)).toList := by
  cases fields with
  | nil =>
    have text : (writeAt page level (.object [])).toList = ['\x7b', '\x7d'] := by
      simp [writeAt, writeFields, bracketed]
    rw [text]
    refine .of_take rfl (by decide) fun _ _ front => ?_
    unfold takeValue
    rw [front]
    rfl
  | cons f fs =>
    have same : Fields.ofPairs (f :: fs) = f :: fs := by
      apply Fields.ofPairs_nodup
      rw [named]
      exact List.Pairwise.map Key.name (fun _ _ ne same => ne (Key.name.inj same)) distinct
    have names : ∀ g ∈ f :: fs, ∃ name, g.1 = .name name := by
      intro g hg
      have := List.mem_map_of_mem (f := Prod.fst) hg
      rw [named] at this
      obtain ⟨name, -, hname⟩ := List.mem_map.1 this
      exact ⟨name, hname.symm⟩
    obtain ⟨k, v⟩ := f
    obtain ⟨⟨name, rfl : k = _⟩, others⟩ := List.forall_mem_cons.1 names
    rw [writeObject_toList]
    refine .of_take rfl (by decide) fun {fuel rest front} long ends opens => ?_
    simp only [inner, List.length_append, List.length_singleton] at long
    simp only [inner, List.append_assoc, List.singleton_append] at opens
    have all := takeFields_text level h others fuel [] rest [] (by omega)
      (fun _ none => by cases none)
    obtain ⟨cs', starts⟩ : ∃ cs', (Text.join ("," ++ newLine (level + 1))
        (writeFields page (level + 1) ((.name name, v) :: fs))).toList = '"' :: cs' := by
      have first := fieldText_toList (level + 1) name v []
      rw [List.append_nil] at first
      cases fs with
      | nil => exact ⟨_, first⟩
      | cons f' fs => exact ⟨_, by rw [writeFields_cons_toList, first, List.cons_append]⟩
    rw [starts] at opens all
    rw [takeValue_object fuel room opens (by
      rw [skipSpace_append (isSpace_newLine _), List.cons_append, skipSpace_cons rfl])]
    rw [List.nil_append, List.reverse_nil, List.nil_append, same] at all
    exact all

/-! ## Whole texts -/

theorem reads_writeAt {room : Nat} : ∀ {v : Value}, v.Plain room → ∀ level,
    Reads room v (writeAt page level v).toList := by
  induction room with
  | zero =>
    intro v h level
    cases v with
    | null => exact reads_null 0
    | bool b => exact reads_bool 0 b
    | int n => exact reads_int 0 n
    | text s => exact reads_string 0 s
    | _ => exact False.elim h
  | succ room ih =>
    intro v h level
    cases v with
    | null => exact reads_null _
    | bool b => exact reads_bool _ b
    | int n => exact reads_int _ n
    | text s => exact reads_string _ s
    | list items => exact reads_list fun v hv => ih (h v hv) _
    | object fields =>
      obtain ⟨⟨names, distinct, named⟩, inside⟩ := h
      exact reads_object distinct named fun f hf => ih (inside f hf) _
    | _ => exact False.elim h

/-- The text of a plain value denotes that value. -/
theorem read_write {room : Nat} {v : Value} (h : v.Plain room) :
    read room (write page v) = some v := by
  have text := reads_writeAt h 0
  rw [show writeAt page 0 v = write page v from rfl] at text
  have whole : takeValue (2 * (write page v).toList.length + 2) room
      ([] ++ ((write page v).toList ++ [])) = some (v, []) :=
    text.reads (by omega) (fun _ none => by cases none) (fun _ none => by cases none)
  rw [List.nil_append, List.append_nil] at whole
  unfold read
  dsimp only
  rw [whole]
  rfl

end Json

end ProfileReadme
