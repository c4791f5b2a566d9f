/-
Sound trees, written and read again. Each node is read as what it was written for, so what the text
of a tree builds can be told from the tree: a text joins what is waiting, a document type leaves a
line feed behind it, and an element opens, holds what is built of its children, and closes.
-/
import ProfileReadme.Proofs.Markup.Sound

namespace ProfileReadme.Markup

/-! ## Attributes of written tags -/

theorem mem_putAttribute {name value : String} {a : String × String} : ∀ {as : Attributes},
    a ∈ putAttribute name value as → a = (name, value) ∨ a ∈ as
  | [], h => .inl (List.mem_singleton.1 h)
  | (n, v) :: as, h => by
    unfold putAttribute at h
    split at h
    · rename_i same
      rcases List.mem_cons.1 h with h | h
      · exact .inl (same ▸ h)
      · exact .inr (List.mem_cons_of_mem _ h)
    · rcases List.mem_cons.1 h with h | h
      · exact .inr (h ▸ List.mem_cons_self ..)
      · exact (mem_putAttribute h).imp_right (List.mem_cons_of_mem _)

theorem mem_putAll {a : String × String} : ∀ {as done : Attributes},
    a ∈ putAll done as → a ∈ done ∨ a ∈ as
  | [], _, h => .inl h
  | b :: as, done, h => by
    have h : a ∈ putAll (putAttribute b.1 b.2 done) as := h
    rcases mem_putAll h with h | h
    · rcases mem_putAttribute h with rfl | h
      · exact .inr (List.mem_cons_self ..)
      · exact .inl h
    · exact .inr (List.mem_cons_of_mem _ h)

theorem isKeptAttribute_of_not_link {a : String × String} (h : isKeptAttribute a = true)
    (notLink : a.1 ∉ linkAttributes) (value : String) : isKeptAttribute (a.1, value) = true := by
  obtain ⟨keeps, safe⟩ := Bool.and_eq_true_iff.1 h
  have handler := (Bool.and_eq_true_iff.1 safe).1
  unfold isKeptAttribute isSafeAttribute
  rw [keeps, handler, decide_eq_false notLink]
  rfl

theorem settleAttribute_kept (element : String) {a : String × String}
    (h : isKeptAttribute a = true) : isKeptAttribute (settleAttribute element a) = true := by
  unfold settleAttribute
  split
  · rename_i words
    exact isKeptAttribute_of_not_link h (isWordList_of_link words) _
  · exact h

/-- A document names its own character set, and that is no link. -/
theorem shownAttributes_kept (name : String) {as : Attributes}
    (h : as.all isKeptAttribute = true) : (shownAttributes name as).all isKeptAttribute = true := by
  have set (key : String) (notLink : key ∉ linkAttributes) (value : String × String → String) :
      (as.map fun a => if a.1 = key then (a.1, value a) else a).all isKeptAttribute = true := by
    rw [List.all_map, List.all_eq_true]
    intro a ha
    have kept := List.all_eq_true.1 h a ha
    rw [Function.comp_apply]
    split
    · rename_i same
      exact isKeptAttribute_of_not_link kept (same ▸ notLink) _
    · exact kept
  unfold shownAttributes
  split
  · split
    · exact set "charset" (by decide) fun _ => "utf-8"
    · split
      · exact set "content" (by decide) fun a =>
          String.ofList (replaceCharset (a.2.length + 1) a.2.toList none)
      · exact h
  · exact h

theorem writtenOrder_kept (name : String) {attributes : Attributes}
    (h : attributes.all isKeptAttribute = true) :
    (writtenOrder name attributes).all isKeptAttribute = true := by
  have shown := List.all_eq_true.1 (shownAttributes_kept name h)
  rw [List.all_eq_true]
  exact fun a ha => shown a (List.mem_mergeSort.1 ha)

/-! ## Parts of written trees -/

theorem head_toList (name : String) (attributes : Attributes) :
    ("<" ++ name ++ Text.join "" ((writtenOrder name attributes).map writeAttribute)).toList =
      '<' :: (name.toList ++ attributesText (writtenOrder name attributes)) := by
  rw [String.toList_append, String.toList_append, Text.join_toList, List.flatMap_map]
  rfl

/-- The opening tag of an element as far as its attributes. -/
def headText (name : String) (attributes : Attributes) : List Char :=
  '<' :: (name.toList ++ attributesText (writtenOrder name attributes))

/-- A closing tag. -/
def closingText (name : String) : List Char := '<' :: '/' :: (name.toList ++ ['>'])

/-- Whether an element is written as one tag. -/
def closesItself (name : String) (children : List Node) : Bool :=
  children.isEmpty && name ∈ voidElements

theorem write_single {name : String} {children : List Node}
    (single : closesItself name children = true) (attributes : Attributes) :
    (Node.element name attributes children).write.toList =
      headText name attributes ++ tagEnd true := by
  obtain ⟨empty, void⟩ := Bool.and_eq_true_iff.1 single
  obtain rfl := List.isEmpty_iff.1 empty
  unfold Node.write
  dsimp only
  rw [if_pos (of_decide_eq_true void), String.toList_append]
  exact congrArg (· ++ tagEnd true) (head_toList name attributes)

theorem write_double {name : String} {children : List Node}
    (double : closesItself name children = false) (attributes : Attributes) :
    (Node.element name attributes children).write.toList =
      headText name attributes ++ (tagEnd false ++
        ((Node.writeAll children).toList ++ closingText name)) := by
  have head := head_toList name attributes
  unfold writtenOrder at head
  unfold Node.write
  dsimp only
  split
  · split
    · rename_i void
      rw [closesItself, decide_eq_true void] at double
      cases double
    · simp [head, headText, writtenOrder, closingText, tagEnd, Node.writeAll]
  · simp [head, headText, writtenOrder, closingText, tagEnd]

theorem not_mem_of_not_contains {cs : List Char} (h : (!cs.contains '>') = true) : '>' ∉ cs := by
  simpa using h

/-- Whether a node is neither a text nor an element. -/
def Node.isPiece : Node → Bool
  | .text _ | .element .. => false
  | _ => true

/-- What a written piece is read as: a declaration comes back as an instruction that ends with a
question mark. -/
def Node.token : Node → Token
  | .comment s => .comment s.toList
  | .doctype s => .doctype s.toList
  | .section s => .section s.toList
  | .instruction s => .instruction s.toList
  | .declaration s => .instruction (s.toList ++ ['?'])
  | .text s => .text s.toList
  | .element name attributes _ => .opening name attributes false

/-- What comes back as text behind a node: the line feed that is written after a document type. -/
def Node.tail : Node → List Char
  | .doctype _ => ['\n']
  | _ => []

/-- A sound piece is read in one turn. -/
theorem Node.turn_piece {n : Node} (piece : n.isPiece = true) (sound : n.isSound = true)
    (rest : List Char) : ∃ cs, n.write.toList ++ rest = '<' :: cs ∧
      (∀ last, turn last '<' cs = .ok (.found [n.token] (n.tail ++ rest) last none)) ∧
      (n.tail ++ rest).length ≤ cs.length := by
  cases n with
  | text s => cases piece
  | element name attributes children => cases piece
  | comment s =>
    have free : isFree closesComment s.toList = true := (Bool.and_eq_true_iff.1 sound).1
    refine ⟨_, ?_, fun last => turn_comment last rest free, by simp [Node.tail]; omega⟩
    unfold Node.write
    rw [String.toList_append, String.toList_append, List.append_assoc, List.append_assoc]
    rfl
  | «section» s =>
    have free : isFree closesSection s.toList = true := (Bool.and_eq_true_iff.1 sound).1
    refine ⟨_, ?_, fun last => turn_section last rest free, by simp [Node.tail]; omega⟩
    unfold Node.write
    rw [String.toList_append, String.toList_append, List.append_assoc, List.append_assoc]
    rfl
  | doctype s =>
    have inside : '>' ∉ s.toList := not_mem_of_not_contains (Bool.and_eq_true_iff.1 sound).1
    refine ⟨_, ?_, fun last => turn_doctype last ('\n' :: rest) inside, by simp [Node.tail]; omega⟩
    unfold Node.write
    rw [String.toList_append, String.toList_append, List.append_assoc, List.append_assoc]
    rfl
  | instruction s =>
    have inside : '>' ∉ s.toList := not_mem_of_not_contains (Bool.and_eq_true_iff.1 sound).1
    refine ⟨_, ?_, fun last => turn_instruction last rest inside, by simp [Node.tail]; omega⟩
    unfold Node.write
    rw [String.toList_append, String.toList_append, List.append_assoc, List.append_assoc]
    rfl
  | declaration s =>
    have unbroken : '>' ∉ s.toList := not_mem_of_not_contains sound
    have inside : '>' ∉ s.toList ++ ['?'] := fun mem =>
      (List.mem_append.1 mem).elim unbroken (by decide)
    refine ⟨_, ?_, fun last => turn_instruction last rest inside, by simp [Node.tail]; omega⟩
    unfold Node.write
    rw [String.toList_append, String.toList_append, List.append_assoc, List.append_assoc,
      List.append_assoc]
    rfl

/-! ## Text that waits -/

namespace Builder

theorem append_append (b : Builder) (cs ds : List Char) :
    (b.append cs).append ds = b.append (cs ++ ds) := by
  show { b with pending := some ((b.pending.getD [] ++ cs) ++ ds) } = _
  rw [List.append_assoc]
  rfl

/-- Text that comes in several pieces, or in none. -/
def put (b : Builder) (cs : List Char) : Builder := if cs.isEmpty then b else b.append cs

@[simp] theorem put_nil (b : Builder) : b.put [] = b := rfl

@[simp] theorem append_put (b : Builder) (c : Char) (cs : List Char) :
    (b.append [c]).put cs = b.put (c :: cs) := by
  cases cs with
  | nil => rfl
  | cons d ds => exact append_append b [c] (d :: ds)

@[simp] theorem put_put (b : Builder) (cs ds : List Char) :
    (b.put cs).put ds = b.put (cs ++ ds) := by
  cases cs with
  | nil => rfl
  | cons c cs =>
    cases ds with
    | nil => rw [List.append_nil, put_nil]
    | cons d ds => exact append_append b (c :: cs) (d :: ds)

end Builder

/-! ## Scans of written trees -/

/-- Whether a token makes only what stays when markup is made safe. -/
def Token.isKept : Token → Bool
  | .opening name attributes _ => keepsElement name && attributes.all isKeptAttribute
  | _ => true

theorem Node.token_isKept {n : Node} (piece : n.isPiece = true) : n.token.isKept = true := by
  cases n with
  | text s => cases piece
  | element name attributes children => cases piece
  | comment | doctype | «section» | instruction | declaration => rfl

/-- From here on a scan finds tokens of what stays, and they build what `f` says. -/
def Reads (cs : List Char) (f : Builder → Builder) : Prop :=
  ∀ fuel last, cs.length ≤ fuel → ∃ ts, scan fuel last none cs = .ok ts ∧
    (∀ t ∈ ts, t.isKept = true) ∧ ∀ b, ts.foldl Builder.step b = f b

theorem reads_nil : Reads [] id := fun fuel last _ => by
  refine ⟨[], ?_, fun t none => absurd none List.not_mem_nil, fun b => rfl⟩
  cases fuel <;> rfl

section

variable {cs rest : List Char} {f : Builder → Builder}

/-- A turn that finds a token, followed by what is read then. -/
theorem Reads.turn (h : Reads rest f) {c : Char} {t : Token}
    (first : ∀ last, turn last c cs = .ok (.found [t] rest last none))
    (kept : t.isKept = true) (short : rest.length ≤ cs.length) :
    Reads (c :: cs) fun b => f (b.step t) := by
  intro fuel last room
  cases fuel with
  | zero => exact absurd room (Nat.not_succ_le_zero _)
  | succ fuel =>
    have room := Nat.le_trans short (Nat.le_of_succ_le_succ room)
    obtain ⟨more, scanned, safe, built⟩ := h fuel last room
    refine ⟨t :: more, ?_, List.forall_mem_cons.2 ⟨kept, safe⟩, fun b => built _⟩
    unfold scan
    rw [first last]
    show (scan fuel last none _ >>= _) = _
    rw [scanned]
    rfl

/-- A scan takes text in one piece up to the next mark, so what is read behind a character is read
as if the text began there. -/
theorem Reads.plain (h : Reads cs f) {c : Char} (mark : isMark c = false) :
    Reads (c :: cs) fun b => f (b.append [c]) := by
  intro fuel last room
  cases fuel with
  | zero => exact absurd room (Nat.not_succ_le_zero _)
  | succ fuel =>
    have room : cs.length ≤ fuel := Nat.le_of_succ_le_succ room
    have scan_plain {d : Char} (ds : List Char) (plain : isMark d = false) :
        scan (fuel + 1) last none (d :: ds) =
          (scan fuel last none (ds.dropWhile (!isMark ·))).map
            (.text (d :: ds.takeWhile (!isMark ·)) :: ·) := by
      conv => lhs; unfold scan
      rw [turn_plain last ds plain]
      show (scan fuel last none _ >>= _) = _
      cases scan fuel last none (ds.dropWhile (!isMark ·)) <;> rfl
    rw [scan_plain cs mark]
    cases cs with
    | nil =>
      obtain ⟨ts, scanned, kept, built⟩ := h fuel last room
      refine ⟨.text [c] :: ts, ?_, List.forall_mem_cons.2 ⟨rfl, kept⟩, fun b => built _⟩
      rw [List.dropWhile_nil, scanned]
      rfl
    | cons d ds =>
      cases plain : isMark d with
      | true =>
        obtain ⟨ts, scanned, kept, built⟩ := h fuel last room
        refine ⟨.text [c] :: ts, ?_, List.forall_mem_cons.2 ⟨rfl, kept⟩, fun b => built _⟩
        rw [List.dropWhile_cons_of_neg (by simp [plain]), scanned,
          List.takeWhile_cons_of_neg (by simp [plain])]
        rfl
      | false =>
        obtain ⟨ts, scanned, kept, built⟩ := h (fuel + 1) last (Nat.le_succ_of_le room)
        rw [scan_plain ds plain] at scanned
        obtain ⟨more, rest, rfl⟩ := map_eq_ok scanned
        rw [List.dropWhile_cons_of_pos (by simp [plain]), rest,
          List.takeWhile_cons_of_pos (by simp [plain])]
        refine ⟨_, rfl, List.forall_mem_cons.2 ⟨rfl, (List.forall_mem_cons.1 kept).2⟩, fun b => ?_⟩
        show _ = f (b.append [c])
        rw [← built (b.append [c])]
        exact congrArg (more.foldl Builder.step) (Builder.append_append b [c] _).symm

/-- Escaped text is read as text. -/
theorem Reads.text (h : Reads rest f) (s : String) :
    Reads ((Text.escapeContent s).toList ++ rest) fun b => f (b.put s.toList) := by
  rw [Text.escapeContent, String.toList_ofList]
  induction s.toList with
  | nil => exact h
  | cons c cs ih =>
    rw [List.flatMap_cons, List.append_assoc]
    rcases contentChar_cases c with ⟨plain, mark⟩ | ⟨name, written, reference⟩
    · rw [plain]
      simpa using ih.plain mark
    · rw [written, List.cons_append, List.append_assoc]
      have turned := ih.turn (fun last => turn_reference last _ reference) rfl (by simp; omega)
      simpa [Builder.step] using turned

section

variable {name : String} (keeps : keepsElement name = true)

include keeps

theorem Reads.opening (h : Reads rest f) {as : Attributes} (kept : as.all isKeptAttribute = true)
    (closed : Bool) :
    Reads ('<' :: (name.toList ++ (attributesText as ++ (tagEnd closed ++ rest)))) fun b =>
      f (b.openTag name (putAll [] as) closed) := by
  have names : ∀ a ∈ as, IsKeptName a.1.toList := fun a ha => by
    have := List.all_eq_true.1 kept a ha
    exact isKeptName_of_keepsAttribute (Bool.and_eq_true_iff.1 this).1
  refine h.turn (fun last => turn_opening last rest keeps names closed) ?_ (by simp; omega)
  refine Bool.and_eq_true_iff.2 ⟨keeps, List.all_eq_true.2 fun a ha => ?_⟩
  exact List.all_eq_true.1 kept a ((mem_putAll ha).resolve_left List.not_mem_nil)

theorem Reads.closing (h : Reads rest f) :
    Reads (closingText name ++ rest) fun b => f (b.closeTag name) := by
  unfold closingText
  rw [List.cons_append, List.cons_append, List.append_assoc]
  exact h.turn (fun last => turn_closing last rest keeps) rfl (by simp; omega)

end

theorem Reads.piece (h : Reads rest f) {n : Node} (piece : n.isPiece = true)
    (sound : n.isSound = true) :
    Reads (n.write.toList ++ rest) fun b => f ((b.step n.token).put n.tail) := by
  obtain ⟨cs, text, first, short⟩ := Node.turn_piece piece sound rest
  have behind : Reads (n.tail ++ rest) fun b => f (b.put n.tail) := by
    cases tail : n.tail with
    | nil => exact h
    | cons c cs =>
      -- the line feed that is written behind a document type comes back as text
      cases n <;> cases tail
      exact h.plain (by decide)
  rw [text]
  exact behind.turn first (Node.token_isKept piece) short

end

/-! ## What a tree builds -/

mutual

/-- What is built of a node when it is written and read again. -/
def Node.feed : Node → Builder → Builder
  | .text s, b => b.put s.toList
  | .element name attributes children, b =>
    if closesItself name children then
      b.openTag name (putAll [] (writtenOrder name attributes)) true
    else
      (Node.feedAll children
        (b.openTag name (putAll [] (writtenOrder name attributes)) false)).closeTag name
  | n, b => (b.step n.token).put n.tail

def Node.feedAll : List Node → Builder → Builder
  | [], b => b
  | n :: ns, b => Node.feedAll ns (n.feed b)

end

mutual

/-- A sound node, written before what is read already. -/
theorem Node.write_reads {rest : List Char} {f : Builder → Builder} (h : Reads rest f) :
    ∀ n : Node, n.every isSound = true → Reads (n.write.toList ++ rest) fun b => f (n.feed b)
  | .text s, _ => h.text s
  | .comment s, sound
  | .section s, sound
  | .doctype s, sound
  | .instruction s, sound
  | .declaration s, sound => h.piece rfl sound
  | .element name attributes children, sound => by
    unfold Node.every at sound
    obtain ⟨here, inside⟩ := Bool.and_eq_true_iff.1 sound
    obtain ⟨keeps, kept⟩ := Bool.and_eq_true_iff.1 here
    have kept := writtenOrder_kept name kept
    unfold Node.feed
    cases single : closesItself name children with
    | true =>
      rw [write_single single]
      simpa [headText] using h.opening keeps kept true
    | false =>
      -- from the end: the closing tag, then what stands within, then the opening tag
      have within := Node.writeAll_reads (h.closing keeps) children inside
      rw [write_double single]
      simpa [headText] using within.opening keeps kept false

theorem Node.writeAll_reads {rest : List Char} {f : Builder → Builder} (h : Reads rest f) :
    ∀ ns : List Node, Node.everyIn isSound ns = true →
      Reads ((Node.writeAll ns).toList ++ rest) fun b => f (Node.feedAll ns b)
  | [], _ => h
  | n :: ns, sound => by
    obtain ⟨first, others⟩ := Bool.and_eq_true_iff.1 sound
    unfold Node.writeAll Node.feedAll
    rw [String.toList_append, List.append_assoc]
    exact Node.write_reads (Node.writeAll_reads h ns others) n first

end

/-! ## Reading again -/

theorem Token.makes_isKept {t : Token} (h : t.isKept = true) : t.Makes fun _ => Node.isKept := by
  cases t with
  | text cs => exact fun keeps s => rfl
  | opening name attributes closed =>
    obtain ⟨keeps, kept⟩ := Bool.and_eq_true_iff.1 h
    refine fun _ => Bool.and_eq_true_iff.2 ⟨keeps, ?_⟩
    rw [List.all_map, List.all_eq_true]
    exact fun a ha => settleAttribute_kept name (List.all_eq_true.1 kept a ha)
  | closing name => exact trivial
  | declaration cs | comment cs | doctype cs | instruction cs | «section» cs =>
    exact fun keeps => rfl

/-- The text of a sound tree is accepted, what is built of it can be told from the tree, and all of
that stays if it is made safe. -/
theorem parse_written {ns : List Node} (sound : Node.everyIn Node.isSound ns = true) :
    parse (Node.writeAll ns) = .ok (Node.feedAll ns .start).finish ∧
      Node.everyIn Node.isKept (Node.feedAll ns .start).finish = true := by
  have reads := Node.writeAll_reads reads_nil ns sound
  rw [List.append_nil] at reads
  obtain ⟨ts, scanned, kept, built⟩ := reads (2 * (Node.writeAll ns).toList.length + 2) false
    (by omega)
  have built : nodesOf ts = (Node.feedAll ns .start).finish := congrArg Builder.finish (built _)
  rw [← built]
  refine ⟨?_, nodesOf_every (fun _ => rfl) fun t ht => Token.makes_isKept (kept t ht)⟩
  show (scan _ false none _).map nodesOf = _
  rw [scanned]
  rfl

end ProfileReadme.Markup
