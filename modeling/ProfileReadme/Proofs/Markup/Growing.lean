/-
The text that a tree under construction is going to have. What has been read decides how it starts,
and no token takes any of that back: nodes are added behind the others, and an open element is
written as far as its tag and what it holds.
-/
import ProfileReadme.Proofs.Markup.Rereading

namespace ProfileReadme.Markup

theorem Node.writeAll_append (ns ms : List Node) :
    Node.writeAll (ns ++ ms) = Node.writeAll ns ++ Node.writeAll ms := by
  induction ns with
  | nil => exact String.empty_append.symm
  | cons n ns ih =>
    show n.write ++ Node.writeAll (ns ++ ms) = n.write ++ Node.writeAll ns ++ Node.writeAll ms
    rw [ih, String.append_assoc]

theorem Node.writeAll_single (n : Node) : Node.writeAll [n] = n.write := String.append_empty

theorem Node.writeAll_concat (ns : List Node) (n : Node) :
    (Node.writeAll (ns ++ [n])).toList = (Node.writeAll ns).toList ++ n.write.toList := by
  rw [Node.writeAll_append, Node.writeAll_single, String.toList_append]

namespace Builder

/-! ## Texts of open elements -/

/-- Open elements as they will be written, each with its tag and what it holds so far. -/
def openText : List Open → List Char
  | [] => []
  | o :: rest => openText rest ++
      (headText o.name o.attributes ++ (tagEnd false ++ (Node.writeAll o.children.reverse).toList))

/-- The text so far, if another node is added to it. -/
def filledText (b : Builder) : List Char :=
  (Node.writeAll b.document.reverse).toList ++ openText b.stack

/-- The text so far. An open element that holds nothing may yet be written as one tag. -/
def text (b : Builder) : List Char :=
  match b.stack with
  | o :: rest =>
    if closesItself o.name o.children then
      filledText { b with stack := rest } ++ headText o.name o.attributes
    else b.filledText
  | [] => b.filledText

theorem text_prefix_filled (b : Builder) : b.text <+: b.filledText := by
  unfold text
  split
  · rename_i o rest stack
    split
    · rw [filledText, filledText, stack, openText, List.append_assoc]
      exact ⟨_, by rw [List.append_assoc, List.append_assoc]⟩
    · exact List.prefix_rfl
  · exact List.prefix_rfl

theorem filledText_add (b : Builder) (n : Node) :
    (b.add n).filledText = b.filledText ++ n.write.toList := by
  unfold add
  split
  · rename_i stack
    simp [filledText, stack, openText, Node.writeAll_concat]
  · rename_i o rest stack
    simp [filledText, stack, openText, Node.writeAll_concat]

/-- An element that holds something is written with two tags. -/
theorem text_add (b : Builder) (n : Node) : (b.add n).text = (b.add n).filledText := by
  unfold add
  split
  · rename_i stack
    unfold text
    dsimp only
    rw [stack]
  · rfl

/-! ## Growth -/

variable (b : Builder)

theorem text_prefix_add (n : Node) : b.text <+: (b.add n).text := by
  rw [text_add, filledText_add]
  exact b.text_prefix_filled.trans (List.prefix_append _ _)

theorem text_prefix_flush (node : String → Node) : b.text <+: (b.flush node).text := by
  unfold flush
  split
  · exact List.prefix_rfl
  · exact text_prefix_add { b with pending := none } _

theorem write_starts (name : String) (attributes : Attributes) (children : List Node) :
    (if closesItself name children then headText name attributes
      else headText name attributes ++ (tagEnd false ++ (Node.writeAll children).toList)) <+:
        (Node.element name attributes children).write.toList := by
  cases single : closesItself name children with
  | true =>
    rw [if_pos rfl, write_single single]
    exact List.prefix_append _ _
  | false =>
    rw [if_neg Bool.false_ne_true, write_double single]
    exact ⟨closingText name, by simp⟩

theorem text_prefix_closeOne : b.text <+: b.closeOne.text := by
  unfold closeOne
  split
  · exact List.prefix_rfl
  · rename_i o rest stack
    have same : closesItself o.name o.children.reverse = closesItself o.name o.children := by
      rw [closesItself, List.isEmpty_reverse]
      rfl
    have written := write_starts o.name o.attributes o.children.reverse
    rw [same] at written
    have text : b.text = filledText { b with stack := rest } ++
        if closesItself o.name o.children then headText o.name o.attributes
        else headText o.name o.attributes ++
          (tagEnd false ++ (Node.writeAll o.children.reverse).toList) := by
      unfold text
      rw [stack]
      dsimp only
      split
      · rfl
      · rw [filledText, filledText, stack, openText, List.append_assoc]
    rw [text, text_add, filledText_add]
    exact (List.prefix_append_right_inj _).2 written

theorem text_prefix_closeTo (name : String) : ∀ (fuel : Nat) (b : Builder),
    b.text <+: (closeTo name fuel b).text
  | 0, _ => List.prefix_rfl
  | fuel + 1, b => by
    unfold closeTo
    split
    · exact List.prefix_rfl
    · split
      · exact b.text_prefix_closeOne
      · exact b.text_prefix_closeOne.trans (text_prefix_closeTo name fuel _)

theorem text_prefix_close (name : String) : b.text <+: (b.close name).text := by
  unfold close
  dsimp only
  split
  · exact (b.text_prefix_flush .text).trans (text_prefix_closeTo name _ _)
  · exact b.text_prefix_flush .text

theorem text_prefix_closeTag (name : String) : b.text <+: (b.closeTag name).text := by
  unfold closeTag
  split
  · exact List.prefix_rfl
  · exact b.text_prefix_close name

/-- A builder in an element that it has just opened. -/
def push (name : String) (attributes : Attributes) : Builder :=
  { b with stack := ⟨name, attributes.map (settleAttribute name), []⟩ :: b.stack }

theorem text_prefix_push (name : String) (attributes : Attributes) :
    b.filledText ++ headText name (attributes.map (settleAttribute name)) <+:
      (b.push name attributes).text := by
  unfold push text
  dsimp only
  split
  · exact List.prefix_rfl
  · exact ⟨tagEnd false, by simp [filledText, openText, Node.writeAll]⟩

/-- An opening tag is written with its head at once. -/
theorem text_prefix_openTag (name : String) (attributes : Attributes) (closed : Bool) :
    (b.flush .text).filledText ++ headText name (attributes.map (settleAttribute name)) <+:
      (b.openTag name attributes closed).text := by
  refine ((b.flush .text).text_prefix_push name attributes).trans ?_
  unfold openTag
  dsimp only
  split
  · exact text_prefix_closeTag _ name
  · split
    · exact text_prefix_close _ name
    · exact List.prefix_rfl

theorem text_prefix_special (cs : List Char) (node : String → Node) :
    b.text <+: (b.special cs node).text :=
  (b.text_prefix_flush .text).trans (text_prefix_flush ((b.flush .text).append cs) node)

/-- No token takes back what the tree is written with. -/
theorem text_prefix_step (t : Token) : b.text <+: (b.step t).text := by
  cases t with
  | text cs => exact List.prefix_rfl
  | opening name attributes closed =>
    have flushed := (b.text_prefix_flush .text).trans (text_prefix_filled _)
    have opened := b.text_prefix_openTag name attributes closed
    exact flushed.trans ((List.prefix_append _ _).trans opened)
  | closing name => exact b.text_prefix_closeTag name
  | comment cs | doctype cs | instruction cs | «section» cs | declaration cs =>
    exact b.text_prefix_special cs _

theorem put_text (cs : List Char) : (b.put cs).text = b.text := by
  cases cs <;> rfl

mutual

theorem text_prefix_feed : ∀ (n : Node) (b : Builder), b.text <+: (n.feed b).text
  | .text s, b => by
    unfold Node.feed
    rw [put_text]
  | .comment s, b | .doctype s, b | .instruction s, b | .section s, b | .declaration s, b => by
    unfold Node.feed
    rw [put_text]
    exact b.text_prefix_step _
  | .element name attributes children, b => by
    have opened (closed : Bool) :=
      b.text_prefix_step (.opening name (putAll [] (writtenOrder name attributes)) closed)
    unfold Node.feed
    split
    · exact opened true
    · exact (opened false).trans ((text_prefix_feedAll children _).trans
        (text_prefix_closeTag _ name))

theorem text_prefix_feedAll : ∀ (ns : List Node) (b : Builder),
    b.text <+: (Node.feedAll ns b).text
  | [], _ => List.prefix_rfl
  | n :: ns, b => (text_prefix_feed n b).trans (text_prefix_feedAll ns _)

end

/-! ## The end -/

end Builder

end ProfileReadme.Markup
