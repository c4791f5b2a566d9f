/-
Trees as they are parsed and made safe. The text of a piece holds nothing that ends it early, unless
it is a declaration; blanks have shrunk where they do, and attributes are such as are read. What is
left of a tree is sound: all of it is kept if it is made safe once more.
-/
import ProfileReadme.Proofs.Markup.Building
import ProfileReadme.Proofs.Markup.Attributes

namespace ProfileReadme.Markup

/-! ## Safe trees -/

/-- Whether an attribute runs no code: it is no handler, and no link that does. -/
def isSafeAttribute (a : String × String) : Bool :=
  !Text.hasStart "on" a.1 && !(a.1 ∈ linkAttributes && runsCode a.2)

def Node.isSafe : Node → Bool
  | .element name attributes _ => name ∉ unsafeElements && attributes.all isSafeAttribute
  | _ => true

/-- Whether a node, if it is a declaration, holds no closing bracket. -/
def Node.isUnbroken : Node → Bool
  | .declaration s => !s.toList.contains '>'
  | _ => true

/-- Whether the text of a node holds nothing that ends it early. -/
def Node.isEnded : Node → Bool
  | .comment s => isFree closesComment s.toList
  | .section s => isFree closesSection s.toList
  | .doctype s | .instruction s => !s.toList.contains '>'
  | _ => true

/-- Whether an attribute stays as it is when markup is made safe. -/
def isKeptAttribute (a : String × String) : Bool := keepsAttribute a.1 && isSafeAttribute a

/-- Whether a node stays as it is when markup is made safe. -/
def Node.isKept : Node → Bool
  | .element name attributes _ => keepsElement name && attributes.all isKeptAttribute
  | _ => true

/-- Whether a node is written so that it is read as it was. -/
def Node.isSound : Node → Bool
  | .element name attributes _ => keepsElement name && attributes.all isKeptAttribute
  | n => n.isEnded && n.isUnbroken

/-- Whether a node is such as is built where it stands: blanks alone have shrunk, and attributes are
such as are read. -/
def Node.isSettled (keeps : Bool) : Node → Bool
  | .text _ => true
  | .comment s | .doctype s | .instruction s | .section s | .declaration s =>
    shrink keeps s.toList == s.toList
  | .element name attributes _ => isTidy name attributes

theorem Node.isSafe_of_isKept {n : Node} (h : n.isKept = true) : n.isSafe = true := by
  cases n with
  | element name attributes children =>
    obtain ⟨keeps, kept⟩ := Bool.and_eq_true_iff.1 h
    refine Bool.and_eq_true_iff.2 ⟨(Bool.and_eq_true_iff.1 keeps).1, ?_⟩
    rw [List.all_eq_true] at kept ⊢
    exact fun a mem => (Bool.and_eq_true_iff.1 (kept a mem)).2
  | _ => rfl

/-! ## The parsed tree -/

/-- What holds of a text holds of what becomes of it, if it holds of a line feed and a blank. -/
theorem shrink_holds {p : List Char → Bool} {cs : List Char} (keeps : Bool) (h : p cs = true)
    (feed : p ['\n'] = true) (blank : p [' '] = true) :
    p (String.ofList (shrink keeps cs)).toList = true := by
  rw [String.toList_ofList]
  unfold shrink
  split_ifs <;> assumption

theorem Token.makes_isEnded {t : Token} (h : t.isNeat = true) : t.Makes fun _ => Node.isEnded := by
  cases t with
  | text cs => exact fun keeps s => rfl
  | opening name attributes closed => exact fun keeps => rfl
  | closing name => exact trivial
  | declaration cs => exact fun keeps => rfl
  | comment cs => exact fun keeps => shrink_holds keeps h rfl rfl
  | «section» cs => exact fun keeps => shrink_holds keeps h rfl rfl
  | doctype cs | instruction cs =>
    exact fun keeps => shrink_holds keeps (p := fun cs => !cs.contains '>') h rfl rfl

/-- What is made of neat tokens holds in a parsed tree. -/
theorem parse_everyAt {p : Bool → Node → Bool} (text : ∀ keeps s, p keeps (.text s) = true)
    (made : ∀ t : Token, t.isNeat = true → t.Makes p) {m : String} {nodes : List Node}
    (h : parse m = .ok nodes) : Node.everyInAt p false nodes = true := by
  obtain ⟨ts, found, rfl⟩ := map_eq_ok h
  exact nodesOf_everyAt text fun t mem => made t (tokens_isNeat found t mem)

theorem parse_isEnded {m : String} {nodes : List Node} (h : parse m = .ok nodes) :
    Node.everyIn Node.isEnded nodes = true := by
  rw [← Node.everyInAt_const Node.isEnded false]
  exact parse_everyAt (fun _ _ => rfl) (fun _ => Token.makes_isEnded) h

theorem cleanAttributes_kept (as : Attributes) :
    (cleanAttributes as).all isKeptAttribute = true := by
  rw [List.all_eq_true]
  intro a ha
  obtain ⟨b, hb, rfl⟩ := List.mem_map.1 ha
  have kept := (List.mem_filter.1 hb).2
  have handler : Text.hasStart "on" b.1 = false := by
    have := (Bool.and_eq_true_iff.1 kept).1
    rwa [Bool.not_eq_true'] at this
  unfold cleanAttribute isKeptAttribute isSafeAttribute
  split
  · have harmless : runsCode "#" = false := by decide
    rw [kept, handler, harmless, Bool.and_false]
    rfl
  · -- nothing was put in place of the value, so it is no link that runs code
    rename_i safe
    rw [Bool.not_eq_true] at safe
    rw [kept, handler, safe]
    rfl

mutual

/-- What is left of a node is sound, unless a declaration breaks. -/
theorem Node.clean_isSound : ∀ n : Node, n.every isEnded = true → ∀ m ∈ n.clean,
    m.every isUnbroken = true → m.every isSound = true
  | .element name attributes children, ended, m, hm, unbroken => by
    unfold Node.clean at hm
    split at hm
    · rename_i keeps
      cases hm
      unfold Node.every at ended unbroken ⊢
      have inside := Node.cleanAll_isSound children (Bool.and_eq_true_iff.1 ended).2
        (Bool.and_eq_true_iff.1 unbroken).2
      rw [inside, Bool.and_true]
      show (keepsElement name && _) = true
      rw [keeps, cleanAttributes_kept]
      rfl
    · cases hm
  | .text s, ended, m, hm, unbroken => by
    cases hm
    rfl
  | .comment s, ended, m, hm, unbroken
  | .doctype s, ended, m, hm, unbroken
  | .instruction s, ended, m, hm, unbroken
  | .section s, ended, m, hm, unbroken
  | .declaration s, ended, m, hm, unbroken => by
    cases hm
    exact Bool.and_eq_true_iff.2 ⟨ended, unbroken⟩

theorem Node.cleanAll_isSound : ∀ ns : List Node, Node.everyIn isEnded ns = true →
    Node.everyIn isUnbroken (Node.cleanAll ns) = true →
    Node.everyIn isSound (Node.cleanAll ns) = true
  | [], _, _ => rfl
  | n :: ns, ended, unbroken => by
    obtain ⟨first, rest⟩ := Bool.and_eq_true_iff.1 ended
    unfold Node.cleanAll at unbroken ⊢
    cases hn : n.clean with
    | none =>
      rw [hn] at unbroken
      exact Node.cleanAll_isSound ns rest unbroken
    | some m =>
      rw [hn] at unbroken
      obtain ⟨head, tail⟩ := Bool.and_eq_true_iff.1 unbroken
      exact Bool.and_eq_true_iff.2 ⟨Node.clean_isSound n first m hn head,
        Node.cleanAll_isSound ns rest tail⟩

end

mutual

/-- Nodes that stay stand where they stood. -/
theorem Node.clean_isSettled : ∀ (n : Node) (keeps : Bool), n.everyAt isSettled keeps = true →
    ∀ m ∈ n.clean, m.everyAt isSettled keeps = true
  | .element name attributes children, keeps, settled, m, hm => by
    unfold Node.clean at hm
    split at hm
    · cases hm
      unfold Node.everyAt at settled ⊢
      obtain ⟨tidy, inside⟩ := Bool.and_eq_true_iff.1 settled
      have inside := Node.cleanAll_isSettled children _ inside
      rw [inside, Bool.and_true]
      exact isTidy_clean tidy
    · cases hm
  | .text s, keeps, settled, m, hm
  | .comment s, keeps, settled, m, hm
  | .doctype s, keeps, settled, m, hm
  | .instruction s, keeps, settled, m, hm
  | .section s, keeps, settled, m, hm
  | .declaration s, keeps, settled, m, hm => by
    cases hm
    exact settled

theorem Node.cleanAll_isSettled : ∀ (ns : List Node) (keeps : Bool),
    Node.everyInAt isSettled keeps ns = true →
    Node.everyInAt isSettled keeps (Node.cleanAll ns) = true
  | [], _, _ => rfl
  | n :: ns, keeps, settled => by
    obtain ⟨first, rest⟩ := Bool.and_eq_true_iff.1 settled
    have others := Node.cleanAll_isSettled ns keeps rest
    unfold Node.cleanAll
    cases hn : n.clean with
    | none => exact others
    | some m => exact Bool.and_eq_true_iff.2 ⟨Node.clean_isSettled n keeps first m hn, others⟩

end

theorem cleanAttributes_of_kept {as : Attributes} (kept : as.all isKeptAttribute = true) :
    cleanAttributes as = as := by
  rw [List.all_eq_true] at kept
  unfold cleanAttributes
  rw [List.filter_eq_self.2 fun a mem => (Bool.and_eq_true_iff.1 (kept a mem)).1]
  refine (List.map_congr_left fun a mem => ?_).trans (List.map_id as)
  have safe := (Bool.and_eq_true_iff.1 (Bool.and_eq_true_iff.1 (kept a mem)).2).2
  unfold cleanAttribute
  rw [Bool.not_eq_true'] at safe
  rw [safe]
  rfl

mutual

/-- A tree of nodes that stay is left as it is. -/
theorem Node.clean_of_kept : ∀ n : Node, n.every isKept = true → n.clean = some n
  | .element name attributes children, kept => by
    unfold Node.every at kept
    obtain ⟨here, inside⟩ := Bool.and_eq_true_iff.1 kept
    obtain ⟨keeps, attributesKept⟩ := Bool.and_eq_true_iff.1 here
    unfold Node.clean
    rw [if_pos keeps, cleanAttributes_of_kept attributesKept, Node.cleanAll_of_kept children inside]
  | .text s, _ | .comment s, _ | .doctype s, _ | .instruction s, _ | .section s, _
  | .declaration s, _ => rfl

theorem Node.cleanAll_of_kept : ∀ ns : List Node, Node.everyIn isKept ns = true →
    Node.cleanAll ns = ns
  | [], _ => rfl
  | n :: ns, kept => by
    obtain ⟨first, rest⟩ := Bool.and_eq_true_iff.1 kept
    unfold Node.cleanAll
    rw [Node.clean_of_kept n first, Node.cleanAll_of_kept ns rest]

end

end ProfileReadme.Markup
