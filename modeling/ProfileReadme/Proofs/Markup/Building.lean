/-
What holds of every node of a tree because it holds of what its tokens make. A tree is built with a
stack of open elements, so the proof follows the nodes below the stack and those on it. A test may
mind whether a node stands within an element that keeps blanks.
-/
import ProfileReadme.Markup.Node

namespace ProfileReadme.Markup

/-! ## Tests of trees -/

mutual

/-- Whether a test holds of a node and of all in it. Of an element the test sees all but the
children. -/
def Node.every (p : Node → Bool) : Node → Bool
  | .element name attributes children =>
    p (.element name attributes []) && Node.everyIn p children
  | n => p n

def Node.everyIn (p : Node → Bool) : List Node → Bool
  | [] => true
  | n :: ns => n.every p && Node.everyIn p ns

end

theorem Node.everyIn_iff {p : Node → Bool} : ∀ {ns : List Node},
    Node.everyIn p ns = true ↔ ∀ n ∈ ns, n.every p = true
  | [] => iff_of_true rfl fun _ none => absurd none List.not_mem_nil
  | n :: ns => by
    unfold Node.everyIn
    rw [Bool.and_eq_true, Node.everyIn_iff, List.forall_mem_cons]

mutual

theorem Node.every_imp {p q : Node → Bool} (h : ∀ {n}, p n = true → q n = true) : ∀ n : Node,
    n.every p = true → n.every q = true
  | .element name attributes children, holds => by
    unfold Node.every at holds ⊢
    obtain ⟨here, inside⟩ := Bool.and_eq_true_iff.1 holds
    exact Bool.and_eq_true_iff.2 ⟨h here, Node.everyIn_imp h inside⟩
  | .text s, holds | .comment s, holds | .doctype s, holds | .instruction s, holds
  | .section s, holds | .declaration s, holds => h holds

theorem Node.everyIn_imp {p q : Node → Bool} (h : ∀ {n}, p n = true → q n = true) :
    ∀ {ns : List Node}, Node.everyIn p ns = true → Node.everyIn q ns = true
  | [], _ => rfl
  | n :: ns, holds => by
    obtain ⟨first, rest⟩ := Bool.and_eq_true_iff.1 holds
    exact Bool.and_eq_true_iff.2 ⟨Node.every_imp h n first, Node.everyIn_imp h rest⟩

end

mutual

/-- Whether a test holds of a node and of all in it, where the test is also told whether blanks are
kept at the place of the node. -/
def Node.everyAt (p : Bool → Node → Bool) (keeps : Bool) : Node → Bool
  | .element name attributes children =>
    p keeps (.element name attributes []) &&
      Node.everyInAt p (name ∈ blankKeepers || keeps) children
  | n => p keeps n

def Node.everyInAt (p : Bool → Node → Bool) (keeps : Bool) : List Node → Bool
  | [] => true
  | n :: ns => n.everyAt p keeps && Node.everyInAt p keeps ns

end

theorem Node.everyInAt_iff {p : Bool → Node → Bool} {keeps : Bool} : ∀ {ns : List Node},
    Node.everyInAt p keeps ns = true ↔ ∀ n ∈ ns, n.everyAt p keeps = true
  | [] => iff_of_true rfl fun _ none => absurd none List.not_mem_nil
  | n :: ns => by
    unfold Node.everyInAt
    rw [Bool.and_eq_true, Node.everyInAt_iff, List.forall_mem_cons]

mutual

theorem Node.everyAt_const (p : Node → Bool) (keeps : Bool) : ∀ n : Node,
    n.everyAt (fun _ => p) keeps = n.every p
  | .element name attributes children => by
    unfold Node.everyAt Node.every
    rw [Node.everyInAt_const p _ children]
  | .text s | .comment s | .doctype s | .instruction s | .section s | .declaration s => rfl

theorem Node.everyInAt_const (p : Node → Bool) (keeps : Bool) : ∀ ns : List Node,
    Node.everyInAt (fun _ => p) keeps ns = Node.everyIn p ns
  | [] => rfl
  | n :: ns => by
    unfold Node.everyInAt Node.everyIn
    rw [Node.everyAt_const p keeps n, Node.everyInAt_const p keeps ns]

end

/-! ## What tokens make -/

/-- What becomes of a text: one of blanks alone shrinks, unless blanks are kept. -/
def shrink (keeps : Bool) (cs : List Char) : List Char :=
  if keeps then cs
  else if cs.all Builder.isAsciiBlank then (if cs.contains '\n' then ['\n'] else [' '])
  else cs

/-- Whether blanks are kept within the open elements. -/
def keepsWithin (stack : List Open) : Bool := stack.any fun o => o.name ∈ blankKeepers

/-- The test holds of whatever node the token makes, wherever it is made. -/
def Token.Makes (p : Bool → Node → Bool) : Token → Prop
  | .text _ => ∀ keeps s, p keeps (.text s) = true
  | .opening name attributes _ =>
    ∀ keeps, p keeps (.element name (attributes.map (settleAttribute name)) []) = true
  | .closing _ => True
  | .comment s => ∀ keeps, p keeps (.comment (String.ofList (shrink keeps s))) = true
  | .doctype s => ∀ keeps, p keeps (.doctype (String.ofList (shrink keeps s))) = true
  | .instruction s => ∀ keeps, p keeps (.instruction (String.ofList (shrink keeps s))) = true
  | .section s => ∀ keeps, p keeps (.section (String.ofList (shrink keeps s))) = true
  | .declaration s => ∀ keeps, p keeps (.declaration (String.ofList (shrink keeps s))) = true

namespace Builder

/-- The test holds of the open elements and of what they hold so far. -/
def OpenHolds (p : Bool → Node → Bool) : List Open → Prop
  | [] => True
  | o :: rest =>
    p (keepsWithin rest) (.element o.name o.attributes []) = true ∧
      (∀ n ∈ o.children, n.everyAt p (keepsWithin (o :: rest)) = true) ∧ OpenHolds p rest

/-- The test holds of all nodes so far, those of open elements included. -/
structure Holds (p : Bool → Node → Bool) (b : Builder) : Prop where
  document : ∀ n ∈ b.document, n.everyAt p false = true
  opened : OpenHolds p b.stack

variable {p : Bool → Node → Bool} {b : Builder}

theorem start_holds : start.Holds p := ⟨fun _ none => absurd none List.not_mem_nil, trivial⟩

theorem Holds.add (h : b.Holds p) {n : Node} (hn : n.everyAt p (keepsWithin b.stack) = true) :
    (b.add n).Holds p := by
  unfold Builder.add
  split
  · rename_i empty
    rw [empty] at hn
    exact ⟨List.forall_mem_cons.2 ⟨hn, h.document⟩, h.opened⟩
  · rename_i o rest stack
    rw [stack] at hn
    obtain ⟨made, children, opened⟩ : OpenHolds p (o :: rest) := stack ▸ h.opened
    exact ⟨h.document, made, List.forall_mem_cons.2 ⟨hn, children⟩, opened⟩

theorem add_pending (b : Builder) (n : Node) : (b.add n).pending = b.pending := by
  unfold add
  split <;> rfl

theorem flush_pending (b : Builder) (node : String → Node) : (b.flush node).pending = none := by
  unfold flush
  split
  · assumption
  · exact add_pending _ _

theorem Holds.flush (h : b.Holds p) {node : String → Node}
    (hn : ∀ cs ∈ b.pending, ∀ keeps,
      (node (String.ofList (shrink keeps cs))).everyAt p keeps = true) :
    (b.flush node).Holds p := by
  unfold Builder.flush
  split
  · exact h
  · rename_i cs pending
    have rest : Holds p { b with pending := none } := ⟨h.document, h.opened⟩
    exact rest.add (hn cs pending (keepsWithin b.stack))

theorem Holds.append (h : b.Holds p) (cs : List Char) : (b.append cs).Holds p :=
  ⟨h.document, h.opened⟩

theorem Holds.closeOne (h : b.Holds p) : b.closeOne.Holds p := by
  unfold Builder.closeOne
  split
  · exact h
  · rename_i o rest stack
    obtain ⟨made, children, opened⟩ : OpenHolds p (o :: rest) := stack ▸ h.opened
    have below : Holds p { b with stack := rest } := ⟨h.document, opened⟩
    refine below.add ?_
    unfold Node.everyAt
    rw [made, Bool.true_and, Node.everyInAt_iff]
    exact fun n hn => children n (List.mem_reverse.1 hn)

theorem Holds.closeTo (name : String) : ∀ (fuel : Nat) {b : Builder}, b.Holds p →
    (Builder.closeTo name fuel b).Holds p
  | 0, _, h => h
  | fuel + 1, b, h => by
    unfold Builder.closeTo
    split
    · exact h
    · split
      · exact h.closeOne
      · exact Holds.closeTo name fuel h.closeOne

theorem Holds.closeAll : ∀ (fuel : Nat) {b : Builder}, b.Holds p →
    (Builder.closeAll fuel b).Holds p
  | 0, _, h => h
  | fuel + 1, _, h => Holds.closeAll fuel h.closeOne

section

variable (text : ∀ keeps s, p keeps (.text s) = true)

include text

theorem Holds.flushText (h : b.Holds p) : (b.flush .text).Holds p :=
  h.flush fun _ _ _ => text _ _

theorem Holds.close (h : b.Holds p) (name : String) : (b.close name).Holds p := by
  unfold Builder.close
  dsimp only
  split
  · exact Holds.closeTo name _ (h.flushText text)
  · exact h.flushText text

theorem Holds.closeTag (h : b.Holds p) (name : String) : (b.closeTag name).Holds p := by
  unfold Builder.closeTag
  split
  · exact ⟨h.document, h.opened⟩
  · exact h.close text name

theorem Holds.openTag (h : b.Holds p) {name : String} {attributes : Attributes}
    (made : ∀ keeps, p keeps (.element name (attributes.map (settleAttribute name)) []) = true)
    (closed : Bool) : (b.openTag name attributes closed).Holds p := by
  have flushed := h.flushText text
  have opened : Holds p { b.flush .text with
      stack := ⟨name, attributes.map (settleAttribute name), []⟩ :: (b.flush .text).stack } :=
    ⟨flushed.document, made _, fun _ none => absurd none List.not_mem_nil, flushed.opened⟩
  unfold Builder.openTag
  dsimp only
  split
  · exact opened.closeTag text name
  · split
    · have closed := opened.close text name
      exact ⟨closed.document, closed.opened⟩
    · exact opened

theorem Holds.special (h : b.Holds p) {cs : List Char} {node : String → Node}
    (made : ∀ keeps, (node (String.ofList (shrink keeps cs))).everyAt p keeps = true) :
    (b.special cs node).Holds p := by
  refine ((h.flushText text).append cs).flush fun ds pending => ?_
  -- nothing was left waiting, so the node is made of this text alone
  have alone : some cs = some ds := by
    unfold Builder.append at pending
    rw [flush_pending] at pending
    exact pending
  cases alone
  exact made

theorem Holds.step (h : b.Holds p) {t : Token} (made : t.Makes p) : (b.step t).Holds p := by
  cases t with
  | text cs => exact h.append cs
  | opening name attributes closed => exact h.openTag text made closed
  | closing name => exact h.closeTag text name
  | comment cs | doctype cs | instruction cs | «section» cs | declaration cs =>
    exact h.special text made

theorem Holds.steps {ts : List Token} (made : ∀ t ∈ ts, t.Makes p) (h : b.Holds p) :
    (ts.foldl Builder.step b).Holds p := by
  induction ts generalizing b with
  | nil => exact h
  | cons t ts ih =>
    have made := List.forall_mem_cons.1 made
    exact ih made.2 (h.step text made.1)

end

end Builder

/-- A test that holds of what the tokens make, and of any text, holds in the whole tree. -/
theorem nodesOf_everyAt {p : Bool → Node → Bool} (text : ∀ keeps s, p keeps (.text s) = true)
    {ts : List Token} (made : ∀ t ∈ ts, t.Makes p) :
    Node.everyInAt p false (nodesOf ts) = true := by
  have built := Builder.Holds.steps text made Builder.start_holds
  rw [Node.everyInAt_iff]
  intro n hn
  exact (Builder.Holds.closeAll _ (built.flushText text)).document n (List.mem_reverse.1 hn)

/-- A test that does not mind where a node stands. -/
theorem nodesOf_every {p : Node → Bool} (text : ∀ s, p (.text s) = true) {ts : List Token}
    (made : ∀ t ∈ ts, t.Makes fun _ => p) : Node.everyIn p (nodesOf ts) = true := by
  rw [← Node.everyInAt_const p false]
  exact nodesOf_everyAt (fun _ => text) made

end ProfileReadme.Markup
