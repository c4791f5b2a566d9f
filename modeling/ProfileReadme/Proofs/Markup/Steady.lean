/-
Markup that is made safe twice. The second time it may come out otherwise: blanks that only what was
taken out kept apart shrink, a document type is written with a line feed that comes back as text, and
an element that is written as one tag while it is empty loses what it holds. Where none of this
happens the text stays, and only there.
-/
import ProfileReadme.Proofs.Markup.Growing
import ProfileReadme.Proofs.Text.Tagged

namespace ProfileReadme.Markup

/-! ## Steady trees -/

/-- Whether neighbouring texts are written again as they are. Blanks alone shrink to a line feed or to
one blank, unless they are kept; behind a document type, which brings a line feed of its own, nothing
else than this line feed may stand. -/
def isSteadyRun (keeps doctype : Bool) (run : List Char) : Bool :=
  if doctype then !keeps && run == ['\n']
  else keeps || !run.all Builder.isAsciiBlank || run ∈ [[], ['\n'], [' ']]

def Node.isDoctype : Node → Bool
  | .doctype _ => true
  | _ => false

mutual

/-- Whether a node is written again as it is: what is written as one tag while it is empty is empty,
and the children are steady. -/
def Node.isSteady (keeps : Bool) : Node → Bool
  | .element name _ children =>
    (children.isEmpty || name ∉ voidElements) &&
      Node.areSteady (name ∈ blankKeepers || keeps) false [] children
  | _ => true

/-- Whether neighbours are written again as they are, behind texts that are not parted from them:
`run` are the characters of these texts, `doctype` says that they stand behind a document type. -/
def Node.areSteady (keeps doctype : Bool) (run : List Char) : List Node → Bool
  | [] => isSteadyRun keeps doctype run
  | .text s :: ns => Node.areSteady keeps doctype (run ++ s.toList) ns
  | n :: ns => isSteadyRun keeps doctype run && n.isSteady keeps &&
      Node.areSteady keeps n.isDoctype [] ns

end

/-- The text that a document type brings. -/
def feedOf (doctype : Bool) : List Char := if doctype then ['\n'] else []

theorem Node.tail_eq (n : Node) : n.tail = feedOf n.isDoctype := by
  cases n <;> rfl

/-- What becomes of neighbouring texts, of none as well. -/
def readRun (keeps : Bool) (run : List Char) : List Char :=
  if run.isEmpty then [] else shrink keeps run

theorem shrink_blank {run : List Char} (blank : run.all Builder.isAsciiBlank = true) :
    shrink false run = if run.contains '\n' then ['\n'] else [' '] := by
  unfold shrink
  rw [if_neg Bool.false_ne_true, if_pos blank]

theorem shrink_filled {keeps : Bool} {run : List Char}
    (filled : (keeps || !run.all Builder.isAsciiBlank) = true) : shrink keeps run = run := by
  unfold shrink
  cases keeps with
  | true => rfl
  | false =>
    rw [Bool.false_or, Bool.not_eq_true'] at filled
    rw [filled]
    rfl

/-- A run is steady exactly if it is what becomes of it. -/
theorem readRun_eq_iff {keeps typed : Bool} {run : List Char} :
    readRun keeps (feedOf typed ++ run) = run ↔ isSteadyRun keeps typed run = true := by
  cases typed with
  | true =>
    have longer : '\n' :: run ≠ run := fun same => by simpa using congrArg List.length same
    show shrink keeps ('\n' :: run) = run ↔ (!keeps && run == ['\n']) = true
    cases filled : keeps || !run.all Builder.isAsciiBlank with
    | true =>
      rw [show shrink keeps ('\n' :: run) = '\n' :: run from shrink_filled filled]
      refine iff_of_false longer fun steady => ?_
      obtain ⟨sparing, feed⟩ := Bool.and_eq_true_iff.1 steady
      obtain rfl := eq_of_beq feed
      rw [Bool.not_eq_true'] at sparing
      rw [sparing] at filled
      cases filled
    | false =>
      obtain ⟨rfl, blank⟩ := Bool.or_eq_false_iff.1 filled
      rw [Bool.not_eq_false'] at blank
      rw [show shrink false ('\n' :: run) = _ from shrink_blank blank]
      show ['\n'] = run ↔ (true && run == ['\n']) = true
      rw [Bool.true_and, beq_iff_eq, eq_comm]
  | false =>
    show readRun keeps run = run ↔
      (keeps || !run.all Builder.isAsciiBlank || run ∈ [[], ['\n'], [' ']]) = true
    cases filled : keeps || !run.all Builder.isAsciiBlank with
    | true =>
      refine iff_of_true ?_ rfl
      unfold readRun
      split
      · rename_i empty
        exact (List.isEmpty_iff.1 empty).symm
      · exact shrink_filled filled
    | false =>
      obtain ⟨rfl, blank⟩ := Bool.or_eq_false_iff.1 filled
      rw [Bool.not_eq_false'] at blank
      rw [Bool.false_or, decide_eq_true_iff]
      unfold readRun
      rw [shrink_blank blank]
      constructor
      · intro same
        rw [← same]
        split_ifs <;> decide
      · simp only [List.mem_cons, List.not_mem_nil, or_false]
        rintro (rfl | rfl | rfl) <;> rfl

/-- A run of characters as it is written. -/
def escaped (run : List Char) : List Char := run.flatMap Text.contentChar

/-! ## Builders between tokens -/

namespace Builder

/-- Nothing waits, no closing tag is owed, and what is open holds something or is written with two
tags. -/
structure Regular (b : Builder) : Prop where
  pending : b.pending = none
  settled : b.settled = []
  tight : b.text = b.filledText

def addAll (b : Builder) (ns : List Node) : Builder := ns.foldl add b

variable {b : Builder}

theorem keepsWithin_add (n : Node) : keepsWithin (b.add n).stack = keepsWithin b.stack := by
  unfold add
  split
  · rfl
  · rename_i o rest stack
    rw [stack]
    rfl

theorem add_settled (n : Node) : (b.add n).settled = b.settled := by
  unfold add
  split <;> rfl

theorem Regular.add (h : b.Regular) (n : Node) : (b.add n).Regular :=
  ⟨(add_pending b n).trans h.pending, (add_settled n).trans h.settled, text_add b n⟩

theorem Regular.text_add (h : b.Regular) (n : Node) :
    (b.add n).text = b.text ++ n.write.toList := by
  rw [Builder.text_add, filledText_add, h.tight]

theorem Regular.addAll (ns : List Node) : ∀ {b : Builder}, b.Regular → (b.addAll ns).Regular := by
  induction ns with
  | nil => exact id
  | cons n ns ih => exact fun h => ih (h.add n)

theorem keepsWithin_addAll (ns : List Node) :
    ∀ {b : Builder}, keepsWithin (b.addAll ns).stack = keepsWithin b.stack := by
  induction ns with
  | nil => exact rfl
  | cons n ns ih => exact ih.trans (keepsWithin_add n)

theorem Regular.text_addAll : ∀ (ns : List Node) {b : Builder}, b.Regular →
    (b.addAll ns).text = b.text ++ (Node.writeAll ns).toList
  | [], b, _ => (List.append_nil b.text).symm
  | n :: ns, b, h => by
    unfold Node.writeAll
    rw [String.toList_append, ← List.append_assoc, ← h.text_add n]
    exact Regular.text_addAll ns (h.add n)

theorem addAll_append (ns ms : List Node) : b.addAll (ns ++ ms) = (b.addAll ns).addAll ms :=
  List.foldl_append

theorem flush_eq_self (none : b.pending = none) (node : String → Node) : b.flush node = b := by
  unfold flush
  rw [none]

/-- The texts that wait become one text, or none. -/
theorem Regular.flush_put (h : b.Regular) (run : List Char) :
    ∃ texts, (b.put run).flush .text = b.addAll texts ∧
      (Node.writeAll texts).toList = escaped (readRun (keepsWithin b.stack) run) := by
  cases run with
  | nil => exact ⟨[], flush_eq_self h.pending .text, rfl⟩
  | cons c cs =>
    refine ⟨[.text (String.ofList (shrink (keepsWithin b.stack) (c :: cs)))], ?_, ?_⟩
    · obtain ⟨stack, document, pending, settled⟩ := b
      obtain rfl : pending = none := h.pending
      rfl
    · rw [Node.writeAll_single]
      show (Text.escapeContent _).toList = _
      rw [Text.escapeContent, String.toList_ofList, String.toList_ofList]
      rfl

theorem Regular.special (h : b.Regular) (cs : List Char) (node : String → Node) :
    b.special cs node = b.add (node (String.ofList (shrink (keepsWithin b.stack) cs))) := by
  unfold Builder.special
  rw [flush_eq_self h.pending]
  obtain ⟨stack, document, pending, settled⟩ := b
  obtain rfl : pending = none := h.pending
  rfl

theorem close_flush (name : String) : (b.flush .text).close name = b.close name := by
  unfold close
  rw [flush_eq_self (flush_pending b .text)]

/-! ## Elements that open and close -/

section

variable {name : String} {attributes : Attributes}

/-- An element that has been opened and holds some nodes. -/
theorem push_addAll (ns : List Node) : (b.push name attributes).addAll ns =
    { b with stack := ⟨name, attributes.map (settleAttribute name), ns.reverse⟩ :: b.stack } := by
  induction ns using List.reverseRecOn with
  | nil => rfl
  | append_singleton ns n ih =>
    rw [addAll_append, ih, List.reverse_append]
    rfl

theorem close_push (none : b.pending = none) (ns : List Node) :
    ((b.push name attributes).addAll ns).close name =
      b.add (.element name (attributes.map (settleAttribute name)) ns) := by
  rw [push_addAll]
  have idle := flush_eq_self (b := { b with
    stack := ⟨name, attributes.map (settleAttribute name), ns.reverse⟩ :: b.stack }) none .text
  unfold close
  dsimp only
  rw [idle, if_pos (by simp)]
  show closeTo name (b.stack.length + 1) _ = _
  unfold closeTo
  dsimp only
  rw [if_pos rfl]
  unfold closeOne
  dsimp only
  rw [List.reverse_reverse]

theorem Regular.openTag_closed (h : b.Regular) :
    b.openTag name attributes true =
      b.add (.element name (attributes.map (settleAttribute name)) []) := by
  have owed : name ∉ (b.push name attributes).settled := by
    show name ∉ b.settled
    rw [h.settled]
    exact List.not_mem_nil
  unfold openTag
  dsimp only
  rw [flush_eq_self h.pending, if_pos rfl]
  show (b.push name attributes).closeTag name = _
  unfold closeTag
  rw [if_neg owed]
  exact close_push h.pending []

/-- An element that is written as one tag while it is empty is empty once it has been opened. -/
theorem Regular.openTag_void (h : b.Regular) (void : name ∈ voidElements) :
    (b.openTag name attributes false).text =
      b.text ++ (headText name (attributes.map (settleAttribute name)) ++ tagEnd true) := by
  have closed : (b.push name attributes).close name =
      b.add (.element name (attributes.map (settleAttribute name)) []) := close_push h.pending []
  have single : closesItself name [] = true := decide_eq_true void
  unfold openTag
  dsimp only
  rw [flush_eq_self h.pending, if_neg Bool.false_ne_true, if_pos void]
  show ((b.push name attributes).close name).text = _
  rw [closed, h.text_add, write_single single]

theorem Regular.openTag_open (h : b.Regular) (plain : name ∉ voidElements) :
    b.openTag name attributes false = b.push name attributes := by
  unfold openTag
  dsimp only
  rw [flush_eq_self h.pending, if_neg Bool.false_ne_true, if_neg plain]
  rfl

theorem Regular.push (h : b.Regular) (plain : name ∉ voidElements) :
    (b.push name attributes).Regular := by
  refine ⟨h.pending, h.settled, ?_⟩
  unfold Builder.push text
  dsimp only
  rw [closesItself, decide_eq_false plain]
  rfl

theorem Regular.text_push (h : b.Regular) (plain : name ∉ voidElements) :
    (b.push name attributes).text =
      b.text ++ (headText name (attributes.map (settleAttribute name)) ++ tagEnd false) := by
  rw [(h.push plain).tight, h.tight]
  simp [Builder.push, filledText, openText, Node.writeAll]

/-- The closing tag of an element takes what it holds, and the texts that wait. -/
theorem Regular.closeTag_push (h : b.Regular) (plain : name ∉ voidElements) (ns : List Node)
    (run : List Char) : ∃ texts,
      (((b.push name attributes).addAll ns).put run).closeTag name =
        b.add (.element name (attributes.map (settleAttribute name)) (ns ++ texts)) ∧
      (Node.writeAll texts).toList =
        escaped (readRun (name ∈ blankKeepers || keepsWithin b.stack) run) := by
  have inside : ((b.push name attributes).addAll ns).Regular := (h.push plain).addAll ns
  have within : keepsWithin ((b.push name attributes).addAll ns).stack =
      (name ∈ blankKeepers || keepsWithin b.stack) := keepsWithin_addAll ns
  obtain ⟨texts, flushed, written⟩ := inside.flush_put run
  rw [within] at written
  refine ⟨texts, ?_, written⟩
  have owed : (((b.push name attributes).addAll ns).put run).settled = [] := by
    cases run <;> exact inside.settled
  unfold closeTag
  rw [owed, if_neg List.not_mem_nil, ← close_flush, flushed, ← addAll_append]
  exact close_push h.pending _

end

end Builder

/-! ## Texts told apart -/

theorem escaped_injective {run run' : List Char} (h : escaped run = escaped run') : run = run' := by
  have same : Text.escapeContent (String.ofList run) = Text.escapeContent (String.ofList run') := by
    unfold Text.escapeContent
    rw [String.toList_ofList, String.toList_ofList]
    exact congrArg String.ofList h
  have back := congrArg unescape same
  rw [unescape_escapeContent, unescape_escapeContent] at back
  simpa using congrArg String.toList back

theorem not_angle_escaped {run : List Char} {c : Char} (h : c ∈ escaped run) :
    decide (c ≠ '<') = true := by
  obtain ⟨d, -, mem⟩ := List.mem_flatMap.1 h
  exact decide_eq_true (Text.not_bracket_contentChar d c mem).1

/-- A written run ends at the bracket behind it. -/
theorem run_eq_of_starts {run run' cs cs' : List Char}
    (h : escaped run ++ '<' :: cs <+: escaped run' ++ '<' :: cs') : run = run' := by
  have cut (r rest : List Char) : (escaped r ++ '<' :: rest).takeWhile (· ≠ '<') = escaped r :=
    (Text.takeWhile_append_stop (fun _ hc => not_angle_escaped hc) (by rintro c ⟨⟩; rfl)).1
  obtain ⟨more, same⟩ := h
  have fronts := congrArg (List.takeWhile (· ≠ '<')) same
  rw [List.append_assoc, List.cons_append, cut, cut] at fronts
  exact escaped_injective fronts

def Node.isText : Node → Bool
  | .text _ => true
  | _ => false

/-- All but texts are written with a bracket first. -/
theorem Node.write_angle {n : Node} (apart : n.isText = false) :
    ∃ cs, n.write.toList = '<' :: cs := by
  cases n with
  | text s => cases apart
  | element name attributes children =>
    cases single : closesItself name children with
    | true => exact ⟨_, write_single single attributes⟩
    | false => exact ⟨_, write_double single attributes⟩
  | comment s | doctype s | instruction s | «section» s | declaration s =>
    unfold Node.write
    simp

/-- Whatever follows, the one builder's text is not that of the other with `cs` behind it. -/
def Strays (b : Builder) (cs : List Char) (b' : Builder) : Prop :=
  ∀ rest, ¬ b'.text <+: b.text ++ (cs ++ rest)

theorem Strays.later {b b' b'' : Builder} {cs : List Char} (h : Strays b cs b')
    (grows : b'.text <+: b''.text) (more : List Char) : Strays b (cs ++ more) b'' := by
  intro rest starts
  rw [List.append_assoc] at starts
  exact h _ (grows.trans starts)

theorem Strays.behind {b b' b'' : Builder} {front cs : List Char} (h : Strays b' cs b'')
    (text : b'.text = b.text ++ front) : Strays b (front ++ cs) b'' := by
  intro rest starts
  refine h rest ?_
  rwa [text, List.append_assoc, ← List.append_assoc front]

/-! ## Steps of a second reading -/

section

variable {b : Builder}

/-- All but texts turn into a node what waits before them. -/
theorem Node.feed_flush {n : Node} (apart : n.isText = false) (b : Builder) :
    (n.feed (b.flush .text)) = n.feed b := by
  have special (cs : List Char) (node : String → Node) :
      (b.flush .text).special cs node = b.special cs node := by
    unfold Builder.special
    rw [Builder.flush_eq_self (Builder.flush_pending b .text)]
  have opened (name : String) (attributes : Attributes) (closed : Bool) :
      (b.flush .text).openTag name attributes closed = b.openTag name attributes closed := by
    unfold Builder.openTag
    rw [Builder.flush_eq_self (Builder.flush_pending b .text)]
  cases n with
  | text s => cases apart
  | element name attributes children =>
    unfold Node.feed
    rw [opened, opened]
  | comment s | doctype s | instruction s | «section» s | declaration s =>
    unfold Node.feed
    exact congrArg (Builder.put · _) (special _ _)

/-- A piece is read as one that is written alike. -/
theorem Node.feed_piece {n : Node} (piece : n.isPiece = true) (h : b.Regular)
    (settled : n.isSettled (keepsWithin b.stack) = true) :
    ∃ m, n.feed b = (b.add m).put n.tail ∧ m.write = n.write := by
  have read {s : String} (node : String → Node)
      (same : (shrink (keepsWithin b.stack) s.toList == s.toList) = true) :
      b.special s.toList node = b.add (node s) := by
    rw [h.special, eq_of_beq same, String.ofList_toList]
  cases n with
  | text s => cases piece
  | element name attributes children => cases piece
  | comment s => exact ⟨_, congrArg (Builder.put · []) (read .comment settled), rfl⟩
  | «section» s => exact ⟨_, congrArg (Builder.put · []) (read .section settled), rfl⟩
  | instruction s => exact ⟨_, congrArg (Builder.put · []) (read .instruction settled), rfl⟩
  | doctype s => exact ⟨_, congrArg (Builder.put · ['\n']) (read .doctype settled), rfl⟩
  | declaration s =>
    -- it comes back as an instruction with the question mark that it was written with
    have filled : (keepsWithin b.stack ||
        !(s.toList ++ ['?']).all Builder.isAsciiBlank) = true := by
      rw [List.all_append]
      simp [Builder.isAsciiBlank]
    refine ⟨.instruction (String.ofList (s.toList ++ ['?'])), ?_, ?_⟩
    · show (b.special (s.toList ++ ['?']) .instruction).put [] = _
      rw [h.special, shrink_filled filled]
      rfl
    · unfold Node.write
      rw [← String.toList_inj]
      simp

/-- What is read behind a run of texts starts with a bracket, whatever it is. -/
theorem Node.feed_angle {n : Node} (apart : n.isText = false) (h : b.Regular)
    (settled : n.everyAt isSettled (keepsWithin b.stack) = true) :
    b.text ++ ['<'] <+: (n.feed b).text := by
  have pieces (piece : n.isPiece = true) (settled : n.isSettled (keepsWithin b.stack) = true) :
      b.text ++ ['<'] <+: (n.feed b).text := by
    obtain ⟨m, fed, same⟩ := n.feed_piece piece h settled
    obtain ⟨cs, angle⟩ := n.write_angle apart
    rw [fed, Builder.put_text, h.text_add, same, angle]
    exact ⟨cs, by simp⟩
  cases n with
  | text s => cases apart
  | comment s | doctype s | instruction s | «section» s | declaration s => exact pieces rfl settled
  | element name attributes children =>
    have opened (closed : Bool) := b.text_prefix_openTag name
      (putAll [] (writtenOrder name attributes)) closed
    rw [Builder.flush_eq_self h.pending, ← h.tight, headText] at opened
    have opened (closed : Bool) := (List.prefix_append _ _).trans
      (by simpa using opened closed : (b.text ++ ['<']) ++ _ <+: _)
    unfold Node.feed
    split
    · exact opened true
    · exact (opened false).trans ((Builder.text_prefix_feedAll children _).trans
        (Builder.text_prefix_closeTag _ name))

/-- A steady node is read as one that is written alike; of any other the text is left for good. -/
def Node.Rereads (n : Node) (b : Builder) : Prop :=
  (n.isSteady (keepsWithin b.stack) = true ∧
    ∃ m, n.feed b = (b.add m).put n.tail ∧ m.write = n.write) ∨
  (n.isSteady (keepsWithin b.stack) = false ∧ Strays b n.write.toList (n.feed b))

/-- Neighbours, behind texts that wait, are read as nodes that are written alike, up to the texts that
wait in the end; if they are not steady whatever these texts are, the text is left for good. -/
def Node.RereadAll (ns : List Node) (b : Builder) (typed : Bool) (run : List Char) : Prop :=
  (∃ more typed' run',
    Node.areSteady (keepsWithin b.stack) typed run ns =
      isSteadyRun (keepsWithin b.stack) typed' run' ∧
    Node.feedAll ns (b.put (feedOf typed ++ run)) =
      (b.addAll more).put (feedOf typed' ++ run') ∧
    (Node.writeAll more).toList ++ escaped run' = escaped run ++ (Node.writeAll ns).toList) ∨
  (Node.areSteady (keepsWithin b.stack) typed run ns = false ∧
    Strays b (escaped run ++ (Node.writeAll ns).toList)
      (Node.feedAll ns (b.put (feedOf typed ++ run))))

theorem Node.areSteady_cons {n : Node} (apart : n.isText = false) (keeps typed : Bool)
    (run : List Char) (ns : List Node) : Node.areSteady keeps typed run (n :: ns) =
      (isSteadyRun keeps typed run && n.isSteady keeps &&
        Node.areSteady keeps n.isDoctype [] ns) := by
  cases n with
  | text s => cases apart
  | _ => rfl

theorem Node.rereadAll_text {s : String} {ns : List Node} {typed : Bool} {run : List Char}
    (rest : Node.RereadAll ns b typed (run ++ s.toList)) :
    Node.RereadAll (.text s :: ns) b typed run := by
  have fed : Node.feedAll (.text s :: ns) (b.put (feedOf typed ++ run)) =
      Node.feedAll ns (b.put (feedOf typed ++ (run ++ s.toList))) := by
    show Node.feedAll ns ((b.put (feedOf typed ++ run)).put s.toList) = _
    rw [Builder.put_put, List.append_assoc]
  have written : escaped run ++ (Node.writeAll (.text s :: ns)).toList =
      escaped (run ++ s.toList) ++ (Node.writeAll ns).toList := by
    show escaped run ++ (Text.escapeContent s ++ Node.writeAll ns).toList = _
    rw [String.toList_append, Text.escapeContent, String.toList_ofList, escaped, escaped,
      List.flatMap_append, List.append_assoc]
  unfold Node.RereadAll
  rw [fed, written]
  exact rest

/-- A node that is no text, behind texts that wait and before its neighbours. -/
theorem Node.rereadAll_cons {n : Node} {ns : List Node} (apart : n.isText = false)
    (h : b.Regular) (settled : n.everyAt isSettled (keepsWithin b.stack) = true)
    (first : ∀ b' : Builder, b'.Regular → keepsWithin b'.stack = keepsWithin b.stack → n.Rereads b')
    (rest : ∀ (b' : Builder) typed, b'.Regular → keepsWithin b'.stack = keepsWithin b.stack →
      Node.RereadAll ns b' typed [])
    (typed : Bool) (run : List Char) : Node.RereadAll (n :: ns) b typed run := by
  -- what waits becomes a text, and the node is read behind it
  obtain ⟨texts, flushed, written⟩ := h.flush_put (feedOf typed ++ run)
  have regular := h.addAll texts
  have kept := Builder.keepsWithin_addAll texts (b := b)
  have before := h.text_addAll texts
  have fed : Node.feedAll (n :: ns) (b.put (feedOf typed ++ run)) =
      Node.feedAll ns (n.feed (b.addAll texts)) := by
    rw [← flushed, Node.feed_flush apart]
    rfl
  obtain ⟨cs, angle⟩ := n.write_angle apart
  unfold Node.RereadAll
  rw [Node.areSteady_cons apart, fed]
  cases steady : isSteadyRun (keepsWithin b.stack) typed run with
  | false =>
    refine .inr ⟨rfl, fun rest starts => ?_⟩
    have bracket := (n.feed_angle apart regular (kept ▸ settled)).trans
      ((Builder.text_prefix_feedAll ns _).trans starts)
    rw [before, written, List.append_assoc, List.prefix_append_right_inj] at bracket
    -- both runs end at a bracket, so the one that was read would be the one that was written
    have same : readRun (keepsWithin b.stack) (feedOf typed ++ run) = run := by
      have front : escaped (readRun (keepsWithin b.stack) (feedOf typed ++ run)) ++ '<' :: [] <+:
          escaped run ++ '<' :: (cs ++ ((Node.writeAll ns).toList ++ rest)) := by
        simpa [Node.writeAll, angle] using bracket
      exact run_eq_of_starts front
    rw [readRun_eq_iff.1 same] at steady
    cases steady
  | true =>
    rw [readRun_eq_iff.2 steady] at written
    rw [written] at before
    rcases first _ regular kept with ⟨nSteady, m, fedNode, same⟩ | ⟨unsteady, strays⟩
    · rw [kept] at nSteady
      have regular' := regular.add m
      have kept' := (Builder.keepsWithin_add m).trans kept
      have behind : ((b.addAll texts).add m).text =
          b.text ++ (escaped run ++ n.write.toList) := by
        rw [regular.text_add, before, same, List.append_assoc]
      have others := rest _ n.isDoctype regular' kept'
      unfold Node.RereadAll at others
      rw [kept', List.append_nil, ← n.tail_eq, ← fedNode] at others
      rw [nSteady]
      rcases others with ⟨more, typed', run', same', fedAll, wrote⟩ | ⟨unsteady, strays⟩
      · refine .inl ⟨texts ++ m :: more, typed', run', same', ?_, ?_⟩
        · rw [fedAll, Builder.addAll_append]
          rfl
        · rw [Node.writeAll_append, String.toList_append, written]
          show escaped run ++ (m.write ++ Node.writeAll more).toList ++ escaped run' =
            escaped run ++ (n.write ++ Node.writeAll ns).toList
          rw [String.toList_append, String.toList_append, same, List.append_assoc,
            List.append_assoc, wrote]
          rfl
      · refine .inr ⟨by rw [unsteady]; rfl, ?_⟩
        simpa [Node.writeAll, escaped] using strays.behind behind
    · rw [kept] at unsteady
      rw [unsteady]
      refine .inr ⟨rfl, ?_⟩
      have later := (strays.behind before).later (Builder.text_prefix_feedAll ns _)
        (Node.writeAll ns).toList
      simpa [Node.writeAll] using later

section

variable {name : String} {attributes : Attributes} {children : List Node}

/-- The tag of an element is written again as it was. -/
theorem headText_again (tidy : isTidy name attributes = true) :
    headText name ((putAll [] (writtenOrder name attributes)).map (settleAttribute name)) =
      headText name attributes := by
  rw [putAll_written tidy, settle_written tidy, headText,
    writtenOrder_again name (isTidy_iff.1 tidy).1]
  rfl

/-- An element that is written as one tag. -/
theorem Node.rereads_single (h : b.Regular) (tidy : isTidy name attributes = true)
    (single : closesItself name children = true) :
    (Node.element name attributes children).Rereads b := by
  obtain ⟨empty, void⟩ := Bool.and_eq_true_iff.1 single
  obtain rfl := List.isEmpty_iff.1 empty
  have alone (keeps : Bool) : Node.areSteady keeps false [] [] = true := by cases keeps <;> rfl
  refine .inl ⟨by unfold Node.isSteady; rw [alone]; rfl, .element name
    ((putAll [] (writtenOrder name attributes)).map (settleAttribute name)) [], ?_, ?_⟩
  · unfold Node.feed
    rw [if_pos single, h.openTag_closed]
    rfl
  · rw [← String.toList_inj, write_single single, write_single single, headText_again tidy]

/-- An element that loses what it holds. -/
theorem Node.rereads_filled (h : b.Regular) (tidy : isTidy name attributes = true)
    (filled : closesItself name children = false) (void : name ∈ voidElements) :
    (Node.element name attributes children).Rereads b := by
  have empty : children.isEmpty = false := by
    rwa [closesItself, decide_eq_true void, Bool.and_true] at filled
  refine .inr ⟨by unfold Node.isSteady; rw [empty, decide_eq_false (not_not.2 void)]; rfl, ?_⟩
  intro rest starts
  unfold Node.feed at starts
  rw [filled, if_neg Bool.false_ne_true, write_double filled] at starts
  have opened := (Builder.text_prefix_feedAll children _).trans
    ((Builder.text_prefix_closeTag _ name).trans starts)
  rw [h.openTag_void void, headText_again tidy, List.prefix_append_right_inj, List.append_assoc,
    List.prefix_append_right_inj] at opened
  -- one of the tags is closed at once, the other one is not
  obtain ⟨more, same⟩ := opened
  exact absurd (List.cons.inj same).1 (by decide)

/-- An element with two tags. -/
theorem Node.rereads_open (h : b.Regular) (tidy : isTidy name attributes = true)
    (plain : name ∉ voidElements)
    (inside : Node.RereadAll children
      (b.push name (putAll [] (writtenOrder name attributes))) false []) :
    (Node.element name attributes children).Rereads b := by
  have double (ns : List Node) : closesItself name ns = false := by
    rw [closesItself, decide_eq_false plain, Bool.and_false]
  have pushed : (b.push name (putAll [] (writtenOrder name attributes))).text = _ :=
    h.text_push plain
  rw [headText_again tidy] at pushed
  have fed : (Node.element name attributes children).feed b =
      (Node.feedAll children
        (b.push name (putAll [] (writtenOrder name attributes)))).closeTag name := by
    unfold Node.feed
    rw [double, if_neg Bool.false_ne_true, h.openTag_open plain]
  have steady : (Node.element name attributes children).isSteady (keepsWithin b.stack) =
      Node.areSteady (name ∈ blankKeepers || keepsWithin b.stack) false [] children := by
    unfold Node.isSteady
    rw [decide_eq_true plain, Bool.or_true, Bool.true_and]
  unfold Node.Rereads
  rw [fed, steady]
  rcases inside with ⟨more, typed, run, same, fedAll, wrote⟩ | ⟨unsteady, strays⟩
  · obtain ⟨texts, closed, written⟩ := h.closeTag_push plain more (feedOf typed ++ run)
    have fedAll : Node.feedAll children
        (b.push name (putAll [] (writtenOrder name attributes))) = _ := fedAll
    have same : Node.areSteady (name ∈ blankKeepers || keepsWithin b.stack) false [] children =
        isSteadyRun (name ∈ blankKeepers || keepsWithin b.stack) typed run := same
    have wrote : (Node.writeAll more).toList ++ escaped run = (Node.writeAll children).toList :=
      wrote
    rw [fedAll, closed, same]
    -- what differs, if anything, is the run before the closing tag
    cases steadyRun : isSteadyRun (name ∈ blankKeepers || keepsWithin b.stack) typed run with
    | true =>
      rw [readRun_eq_iff.2 steadyRun] at written
      refine .inl ⟨rfl, _, rfl, ?_⟩
      rw [← String.toList_inj, write_double (double _), write_double (double _),
        headText_again tidy, Node.writeAll_append, String.toList_append, written, wrote]
    | false =>
      refine .inr ⟨rfl, fun rest starts => ?_⟩
      rw [h.text_add, List.prefix_append_right_inj, write_double (double _),
        write_double (double _), headText_again tidy, List.append_assoc,
        List.prefix_append_right_inj, List.append_assoc, List.prefix_append_right_inj,
        Node.writeAll_append, String.toList_append, written, ← wrote, List.append_assoc,
        List.append_assoc, List.append_assoc, List.prefix_append_right_inj] at starts
      have back := readRun_eq_iff.1 (run_eq_of_starts starts)
      rw [back] at steadyRun
      cases steadyRun
  · refine .inr ⟨unsteady, ?_⟩
    have later := (strays.behind pushed).later (Builder.text_prefix_closeTag _ name)
      (closingText name)
    rw [write_double (double children)]
    simpa [escaped, feedOf] using later

end

end

mutual

theorem Node.rereads : ∀ (n : Node) (b : Builder), n.isText = false → b.Regular →
    n.everyAt isSettled (keepsWithin b.stack) = true → n.Rereads b
  | .text s, b, apart, _, _ => by cases apart
  | .comment s, b, apart, h, settled
  | .doctype s, b, apart, h, settled
  | .instruction s, b, apart, h, settled
  | .section s, b, apart, h, settled
  | .declaration s, b, apart, h, settled => .inl ⟨rfl, Node.feed_piece rfl h settled⟩
  | .element name attributes children, b, apart, h, settled => by
    obtain ⟨tidy, inside⟩ := Bool.and_eq_true_iff.1 settled
    cases single : closesItself name children with
    | true => exact Node.rereads_single h tidy single
    | false =>
      by_cases void : name ∈ voidElements
      · exact Node.rereads_filled h tidy single void
      · exact Node.rereads_open h tidy void
          (Node.rereadAll children _ false [] (h.push void) inside)

theorem Node.rereadAll : ∀ (ns : List Node) (b : Builder) (typed : Bool) (run : List Char),
    b.Regular → Node.everyInAt isSettled (keepsWithin b.stack) ns = true →
    Node.RereadAll ns b typed run
  | [], b, typed, run, _, _ => .inl ⟨[], typed, run, rfl, rfl, by simp [Node.writeAll]⟩
  | n :: ns, b, typed, run, h, settled => by
    obtain ⟨first, others⟩ := Bool.and_eq_true_iff.1 settled
    cases text : n.isText with
    | true =>
      cases n with
      | text s => exact Node.rereadAll_text (Node.rereadAll ns b typed _ h others)
      | _ => cases text
    | false =>
      refine Node.rereadAll_cons text h first (fun b' h' same => ?_)
        (fun b' typed' h' same => ?_) typed run
      · exact Node.rereads n b' text h' (same ▸ first)
      · exact Node.rereadAll ns b' typed' [] h' (same ▸ others)

end

/-! ## Markup made safe twice -/

end ProfileReadme.Markup
