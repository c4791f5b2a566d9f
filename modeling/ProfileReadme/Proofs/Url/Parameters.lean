/-
Reading the parameters of a query back. No character of an encoded text is one of those that a query
is cut at, so it is cut where it was joined, and each piece stands for the text that was encoded.
What is read is therefore what was sent, in the same order, whatever texts it holds.
-/
import ProfileReadme.Proofs.Url.Percent
import ProfileReadme.Url.Service

namespace ProfileReadme.Url

/-! ## Encoded texts -/

/-- The text that an encoded text stands for, if its bytes are one in UTF-8. -/
def decode? (cs : List Char) : Option String := String.fromUTF8? (bytesOf cs).toByteArray

theorem decode?_utf8 {cs : List Char} {s : String}
    (h : bytesOf cs = s.toList.flatMap String.utf8EncodeChar) : decode? cs = some s := by
  have bytes : (bytesOf cs).toByteArray = s.toByteArray := by
    rw [h, ← String.ofList_toList (s := s), String.toByteArray_ofList, String.toList_ofList]
    rfl
  unfold decode? String.fromUTF8?
  rw [bytes, dif_pos s.isValidUTF8]
  rfl

theorem decode?_encode (s : String) : decode? (encode s).toList = some s :=
  decode?_utf8 (bytesOf_encode s)

theorem mem_encode {s : String} {c : Char} (h : c ∈ (encode s).toList) :
    isPlain c = true ∨ c = '%' := by
  have digit (n : Nat) : isPlain (upperHex n) = true := by
    have all : ∀ n < 16, isPlain (Nat.digitChar n).toUpper = true := by decide
    exact all (n % 16) (Nat.mod_lt n (by decide))
  rw [encode_toList] at h
  obtain ⟨d, -, h⟩ := List.mem_flatMap.1 h
  unfold encodeChar at h
  split at h
  · rename_i plain
    exact .inl (List.mem_singleton.1 h ▸ plain)
  · obtain ⟨b, -, h⟩ := List.mem_flatMap.1 h
    simp only [encodeByte, List.mem_cons, List.not_mem_nil, or_false] at h
    rcases h with rfl | rfl | rfl
    · exact .inr rfl
    · exact .inl (digit _)
    · exact .inl (digit _)

/-- A character at which addresses are cut. -/
def isSeparator (c : Char) : Bool := c ∈ ['?', '&', '=', ';']

/-- No separator is left in an encoded text. -/
theorem separator_not_mem_encode {c : Char} (h : isSeparator c = true) (s : String) :
    c ∉ (encode s).toList := by
  have apart : ['?', '&', '=', ';'].all (fun c => !isPlain c && c != '%') = true := by decide
  have coded := List.all_eq_true.1 apart c (of_decide_eq_true h)
  rw [Bool.and_eq_true, Bool.not_eq_true', bne_iff_ne] at coded
  exact fun mem => (mem_encode mem).elim (fun plain => by simp [coded.1] at plain) coded.2

/-! ## Queries -/

/-- A part of a query, cut at its first sign of equality: its name and its value as written. -/
def cut? (part : List Char) : Option (List Char × List Char) :=
  match part.dropWhile (· ≠ '=') with
  | _ :: value => some (part.takeWhile (· ≠ '='), value)
  | [] => none

/-- A part of a query: its name and its value. -/
def field? (part : List Char) : Option (String × String) :=
  (cut? part).bind fun (name, value) =>
    (decode? name).bind fun k => (decode? value).map (k, ·)

namespace Query

/-- The parts of a query as they are written; without any text there is none. -/
def pieces (s : String) : List (List Char) :=
  if s.isEmpty then [] else Text.splitAt (· == '&') s.toList

/-- The parameters of a query. -/
def read (s : String) : Option (List (String × String)) := (pieces s).mapM field?

/-- What is sent of a value: nothing of `null`, truth values in lower case, any other as shown. -/
def sentText : Value → Option String
  | .null => none
  | .bool b => some (if b then "true" else "false")
  | v => some v.shown

/-- The parameters that are sent, in order. -/
def sent (q : Query) : List (String × String) :=
  q.filterMap fun e => (sentText e.2).map (e.1, ·)

/-- A parameter as it is written. -/
def part (e : String × String) : String := encode e.1 ++ "=" ++ encode e.2

theorem parts_eq (q : Query) : q.parts = q.sent.map part := by
  induction q with
  | nil => rfl
  | cons e q ih =>
    obtain ⟨k, v⟩ := e
    have truth (b : Bool) : (if b then "true" else "false") =
        encode (if b then "true" else "false") := by
      cases b <;> decide
    cases v with
    | null => exact ih
    | bool b =>
      show (encode k ++ "=" ++ (if b then "true" else "false")) :: parts q = _
      rw [ih, truth]
      rfl
    | int | real | text | bytes | date | moment | list | object | record =>
      exact congrArg (_ :: ·) ih

theorem part_toList (e : String × String) :
    (part e).toList = (encode e.1).toList ++ '=' :: (encode e.2).toList := by
  unfold part
  rw [String.toList_append, String.toList_append, List.append_assoc]
  rfl

theorem separator_not_mem_part {c : Char} (h : isSeparator c = true) (sign : c ≠ '=')
    (e : String × String) : c ∉ (part e).toList := by
  rw [part_toList, List.mem_append, List.mem_cons]
  rintro (name | same | value)
  · exact separator_not_mem_encode h _ name
  · exact sign same
  · exact separator_not_mem_encode h _ value

theorem cut?_encode (s : String) (value : List Char) :
    cut? ((encode s).toList ++ '=' :: value) = some ((encode s).toList, value) := by
  have inside : ∀ c ∈ (encode s).toList, decide (c ≠ '=') = true := fun c hc =>
    decide_eq_true fun same => separator_not_mem_encode (by decide) s (same ▸ hc)
  have stop : ∀ c ∈ ('=' :: value).head?, decide (c ≠ '=') = false := by
    rintro c ⟨⟩
    rfl
  obtain ⟨taken, left⟩ := Text.takeWhile_append_stop inside stop
  unfold cut?
  rw [left, taken]

theorem field?_part (e : String × String) : field? (part e).toList = some e := by
  unfold field?
  rw [part_toList, cut?_encode, Option.bind_some]
  dsimp only
  rw [decode?_encode, Option.bind_some, decode?_encode]
  rfl

theorem write_eq_empty_iff (q : Query) : q.write = "" ↔ q.sent = [] := by
  have filled : ∀ s ∈ q.sent.map part, s ≠ "" := by
    intro s hs
    obtain ⟨e, -, rfl⟩ := List.mem_map.1 hs
    simp [part]
  unfold write
  rw [parts_eq, Text.join_eq_empty_iff "&" filled, List.map_eq_nil_iff]

/-- A query is cut into the parts that it was joined from. -/
theorem pieces_write (q : Query) : pieces q.write = q.sent.map fun e => (part e).toList := by
  unfold pieces
  by_cases none : q.sent = []
  · rw [(write_eq_empty_iff q).2 none, none]
    rfl
  · have filled : ¬ q.write.isEmpty = true := fun empty =>
      none ((write_eq_empty_iff q).1 (String.isEmpty_iff.1 empty))
    have free : ∀ s ∈ q.sent.map part, ∀ c ∈ s.toList, (c == '&') = false := by
      intro s hs c hc
      obtain ⟨e, -, rfl⟩ := List.mem_map.1 hs
      refine beq_eq_false_iff_ne.2 ?_
      rintro rfl
      exact separator_not_mem_part (by decide) (by decide) e hc
    have some : q.sent.map part ≠ [] := fun nil => none (List.map_eq_nil_iff.1 nil)
    rw [if_neg filled, write, parts_eq, Text.splitAt_join rfl (by decide) some free, List.map_map]
    rfl

theorem mapM_map_back {f : α → β} {g : β → Option α} (back : ∀ a, g (f a) = some a) (as : List α) :
    (as.map f).mapM g = some as := by
  induction as with
  | nil => rfl
  | cons a as ih =>
    rw [List.map_cons, List.mapM_cons, back, ih]
    rfl

theorem read_write (q : Query) : read q.write = some q.sent := by
  unfold read
  rw [pieces_write, mapM_map_back field?_part]

end Query

/-! ## Lines of an animation -/

/-- What stands behind the first question mark of an address. -/
def queryOf (url : String) : String :=
  String.ofList ((url.toList.dropWhile (· ≠ '?')).drop 1)

/-- The value of a parameter as it is written. -/
def written? (name query : String) : Option (List Char) :=
  ((Query.pieces query).filterMap cut?).lookup name.toList

/-- The lines that an address asks for. -/
def lines? (url : String) : Option (List String) :=
  (written? "lines" (queryOf url)).bind fun value => (Text.splitAt (· == ';') value).mapM decode?

/-- What an animation is asked for besides its lines. -/
def typingQuery (lines : List String) (o : TypingOptions) : Query :=
  [("width", .int (o.width.getD (typingWidth lines o.size))), ("center", whenOn o.center),
    ("color", colorOption o.color), ("size", ofInt o.size), ("pause", ofInt o.pause),
    ("duration", ofInt o.duration)]

/-- The lines as one value of a query. -/
def encodedLines (lines : List String) : List Char := (Text.join ";" (lines.map encode)).toList

theorem queryOf_typing (lines : List String) (o : TypingOptions) :
    (queryOf (typing lines o)).toList =
      "lines=".toList ++ encodedLines lines ++ '&' :: (typingQuery lines o).write.toList := by
  have address : (typing lines o).toList = typingService.toList ++
      '?' :: ("lines=".toList ++ encodedLines lines ++ '&' :: (typingQuery lines o).write.toList) := by
    show (typingService ++ "?lines=" ++ Text.join ";" (lines.map encode) ++ "&" ++
      (typingQuery lines o).write).toList = _
    simp [encodedLines]
  have inside : ∀ c ∈ typingService.toList, decide (c ≠ '?') = true :=
    List.all_eq_true.1 (by decide : typingService.toList.all (decide <| · ≠ '?') = true)
  have stop (rest : List Char) : ∀ c ∈ ('?' :: rest).head?, decide (c ≠ '?') = false := by
    rintro c ⟨⟩
    rfl
  unfold queryOf
  rw [String.toList_ofList, address, (Text.takeWhile_append_stop inside (stop _)).2]
  rfl

theorem mem_encodedLines {c : Char} {lines : List String} (h : c ∈ encodedLines lines) :
    c = ';' ∨ ∃ s, c ∈ (encode s).toList := by
  unfold encodedLines at h
  induction lines with
  | nil => cases h
  | cons line lines ih =>
    cases lines with
    | nil => exact .inr ⟨line, h⟩
    | cons next lines =>
      rw [List.map_cons, List.map_cons, Text.join_cons_toList] at h
      rcases List.mem_append.1 h with h | h
      · exact .inr ⟨line, h⟩
      · rcases List.mem_append.1 h with h | h
        · exact .inl (List.mem_singleton.1 h)
        · exact ih h

/-- The query of an animation is cut into its lines and the parts of the rest. -/
theorem pieces_typing (lines : List String) (o : TypingOptions) :
    Query.pieces (queryOf (typing lines o)) =
      ("lines=".toList ++ encodedLines lines) ::
        (typingQuery lines o).sent.map fun e => (Query.part e).toList := by
  have whole := queryOf_typing lines o
  have filled : ¬ (queryOf (typing lines o)).isEmpty = true := fun empty => by
    rw [String.isEmpty_iff.1 empty] at whole
    cases whole
  have front : ∀ c ∈ "lines=".toList ++ encodedLines lines, (c == '&') = false := by
    intro c hc
    refine beq_eq_false_iff_ne.2 ?_
    rcases List.mem_append.1 hc with name | value
    · have apart : "lines=".toList.all (· != '&') = true := by decide
      exact bne_iff_ne.1 (List.all_eq_true.1 apart c name)
    · rintro rfl
      rcases mem_encodedLines value with sign | ⟨s, coded⟩
      · exact absurd sign (by decide)
      · exact separator_not_mem_encode (by decide) s coded
  -- a width is always sent, so the rest is a query of its own
  have rest : ¬ (typingQuery lines o).write.isEmpty = true := fun empty =>
    List.cons_ne_nil _ _ ((Query.write_eq_empty_iff _).1 (String.isEmpty_iff.1 empty))
  have pieces := Query.pieces_write (typingQuery lines o)
  unfold Query.pieces at pieces ⊢
  rw [if_neg rest] at pieces
  rw [if_neg filled, whole, Text.splitAt_mark (m := '&') rfl, Text.splitAt_plain front, pieces]
  rfl

theorem bytesOf_encode_append (s : String) (cs : List Char) :
    bytesOf ((encode s).toList ++ cs) = s.toList.flatMap String.utf8EncodeChar ++ bytesOf cs := by
  rw [encode_toList]
  induction s.toList with
  | nil => rfl
  | cons c s ih =>
    rw [List.flatMap_cons, List.append_assoc, bytesOf_encodeChar, ih, List.flatMap_cons,
      List.append_assoc]

/-- Read as one value, the lines stand in a row with semicolons between them. -/
theorem decode?_encodedLines (lines : List String) :
    decode? (encodedLines lines) = some (Text.join ";" lines) := by
  refine decode?_utf8 ?_
  unfold encodedLines
  induction lines with
  | nil => rfl
  | cons line lines ih =>
    cases lines with
    | nil => exact bytesOf_encode line
    | cons next lines =>
      have sign (cs : List Char) : bytesOf (';' :: cs) = String.utf8EncodeChar ';' ++ bytesOf cs :=
        bytesOf.eq_3 ';' cs fun _ _ _ same _ => absurd same (by decide)
      rw [List.map_cons, List.map_cons, Text.join_cons_toList, bytesOf_encode_append,
        Text.join_cons_toList, List.flatMap_append, List.flatMap_append]
      show _ ++ bytesOf (';' :: _) = _
      rw [sign]
      exact congrArg (fun bs => _ ++ (_ ++ bs)) ih

/-- What is read of a query is what was sent: the names and texts of all values that are not `null`,
in order. So two queries are written alike only if they send the same. Of the address of an
animation the same holds, and its first parameter, cut at the semicolons, gives its lines one by
one. No text adds a parameter or a line, hides one or changes another. -/
theorem parameters_read :
    (∀ q : Query, Query.read q.write = some q.sent) ∧
    (∀ q q' : Query, q.write = q'.write ↔ q.sent = q'.sent) ∧
    ∀ (line : String) (lines : List String) (o : TypingOptions),
      lines? (typing (line :: lines) o) = some (line :: lines) ∧
      Query.read (queryOf (typing (line :: lines) o)) =
        some (("lines", Text.join ";" (line :: lines)) ::
          (typingQuery (line :: lines) o).sent) := by
  refine ⟨Query.read_write, fun q q' => ⟨fun same => ?_, fun same => ?_⟩, fun line lines o => ⟨?_, ?_⟩⟩
  · have read := Query.read_write q
    rw [same, Query.read_write] at read
    exact (Option.some.inj read).symm
  · unfold Query.write
    rw [Query.parts_eq, Query.parts_eq, same]
  · have free : ∀ s ∈ (line :: lines).map encode, ∀ c ∈ s.toList, (c == ';') = false := by
      intro s hs c hc
      obtain ⟨t, -, rfl⟩ := List.mem_map.1 hs
      refine beq_eq_false_iff_ne.2 ?_
      rintro rfl
      exact separator_not_mem_encode (by decide) t hc
    have value : written? "lines" (queryOf (typing (line :: lines) o)) =
        some (encodedLines (line :: lines)) := by
      unfold written?
      rw [pieces_typing]
      rfl
    have filled : (line :: lines).map encode ≠ [] := List.cons_ne_nil _ _
    unfold lines?
    rw [value, Option.bind_some, encodedLines,
      Text.splitAt_join rfl (by decide) filled free, List.map_map]
    exact Query.mapM_map_back decode?_encode _
  · have sign : "lines=".toList ++ encodedLines (line :: lines) =
        "lines".toList ++ '=' :: encodedLines (line :: lines) := rfl
    have first : field? ("lines=".toList ++ encodedLines (line :: lines)) =
        some ("lines", Text.join ";" (line :: lines)) := by
      have name : encode "lines" = "lines" := by decide
      have cut := Query.cut?_encode "lines" (encodedLines (line :: lines))
      have back := decode?_encode "lines"
      rw [name] at cut back
      unfold field?
      rw [sign, cut, Option.bind_some]
      dsimp only
      rw [back, Option.bind_some, decode?_encodedLines]
      rfl
    unfold Query.read
    rw [pieces_typing, List.mapM_cons, first, Query.mapM_map_back Query.field?_part]
    rfl

end ProfileReadme.Url
