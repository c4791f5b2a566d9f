/-
The cards of a preview: images of statistics, each loaded or a skeleton that holds the source for
later. A drawn block has in it the cards of what it shows, in the order of the blocks. But a block
asks for more of them: what is nested in an item of a list is drawn first, and with it its cards,
and only then does the item turn out to be shown or not.
-/
import ProfileReadme.Proofs.Preview.Links
import ProfileReadme.Proofs.Preview.Shown

namespace ProfileReadme

open Preview Preview.Drawing

namespace Preview

/-! ## Cards of a page -/

/-- Whether a class is that of a card, loaded or not. -/
def isCardClass (cls : String) : Bool :=
  ["stat-card stat-", "stat-card-skeleton stat-"].any fun front =>
    front.toList.isPrefixOf cls.toList

/-- The source of a card: where its image is, or where it will be from. -/
def cardSource? (attrs : List (String × String)) : Option String :=
  match attrs.lookup "class" with
  | some cls =>
    if isCardClass cls then (attrs.lookup "src").or (attrs.lookup "data-src") else none
  | none => none

/-- The sources of the cards of a tree, in order. -/
def Node.cards (n : Node) : List String := n.walk.filterMap fun m => cardSource? m.attrs

/-- The cards of a part, which may be absent. -/
def cardsIn : Option Child → List String
  | some (.node n) => n.cards
  | _ => []

@[simp] theorem cardsIn_none : cardsIn none = [] := rfl

@[simp] theorem cardsIn_words (s : String) : cardsIn (words s) = [] := rfl

@[simp] theorem cardsIn_inside (n : Node) : cardsIn (inside n) = n.cards := rfl

@[simp] theorem cardsIn_node (n : Node) : cardsIn (some (.node n)) = n.cards := rfl

theorem cards_mk (tag : String) (attrs : List (String × String)) (parts : List (Option Child))
    (raw : Bool) :
    (Node.mk tag attrs (parts.filterMap id) raw).cards =
      (cardSource? attrs).toList ++ parts.flatMap cardsIn := by
  have below : (Child.walkAll (parts.filterMap id)).filterMap (fun m => cardSource? m.attrs) =
      parts.flatMap cardsIn := by
    induction parts with
    | nil => rfl
    | cons part rest ih =>
      rcases part with _ | s | n
      · exact ih
      · exact ih
      · show (n.walk ++ Child.walkAll (rest.filterMap id)).filterMap _ = _
        rw [List.filterMap_append, ih]
        rfl
  rw [← below]
  unfold Node.cards Node.walk
  cases here : cardSource? attrs with
  | none => exact List.filterMap_cons_none here
  | some s => exact List.filterMap_cons_some here

/-- Whether an attribute can hold the source of a card. -/
def isSourceAttr (name : String) : Bool := name = "src" || name = "data-src"

theorem cardSource?_bare {attrs : List (String × String)}
    (bare : ∀ a ∈ attrs, isSourceAttr a.1 = false) : cardSource? attrs = none := by
  have absent (name : String) (source : isSourceAttr name = true) :
      attrs.lookup name = none := by
    rw [List.lookup_eq_none_iff]
    intro a ha
    have := bare a ha
    refine bne_iff_ne.2 fun same => ?_
    rw [← same, source] at this
    cases this
  unfold cardSource?
  rw [absent "src" rfl, absent "data-src" rfl]
  split
  · exact ite_self none
  · rfl

theorem mem_attrs_element {tag k s : String} {attrs : List (String × Option String)}
    {parts : List (Option Child)} {raw : Bool} (h : (k, s) ∈ (element tag attrs parts raw).attrs) :
    (k, some s) ∈ attrs := by
  obtain ⟨⟨k', v⟩, given, written⟩ := List.mem_filterMap.1 h
  obtain ⟨_, rfl, ⟨⟩⟩ := Option.map_eq_some_iff.1 written
  exact given

theorem cards_element_of {tag : String} {attrs : List (String × Option String)}
    {parts : List (Option Child)} {raw : Bool}
    (none : cardSource? (element tag attrs parts raw).attrs = none) :
    (element tag attrs parts raw).cards = parts.flatMap cardsIn := by
  unfold element at none ⊢
  rw [cards_mk]
  exact congrArg (·.toList ++ _) none

/-- An element that holds no source is no card. -/
@[simp] theorem cards_element {attrs : List (String × Option String)}
    (bare : attrs.any (isSourceAttr ·.1) = false) (tag : String) (parts : List (Option Child))
    (raw : Bool) : (element tag attrs parts raw).cards = parts.flatMap cardsIn := by
  refine cards_element_of (cardSource?_bare fun (k, s) h => ?_)
  simpa using List.any_eq_false.1 bare _ (mem_attrs_element h)

@[simp] theorem cards_unattributed (tag : String) (parts : List (Option Child)) (raw : Bool) :
    (element tag [] parts raw).cards = parts.flatMap cardsIn := cards_element rfl tag parts raw

@[simp] theorem cards_classed (tag cls s : String) : (classed tag cls s).cards = [] := by
  simp [classed, isSourceAttr]

@[simp] theorem cards_plain (tag s : String) : (plain tag s).cards = [] := by
  simp [plain]

/-- An image of another class is no card, wherever it is from. -/
theorem cards_image {attrs : List (String × Option String)}
    (other : ∀ cls, ("class", some cls) ∈ attrs → isCardClass cls = false) (tag : String) :
    (element tag attrs [] false).cards = [] := by
  refine cards_element_of ?_
  unfold cardSource?
  split
  next cls found =>
    obtain ⟨front, rest, split, -⟩ := List.lookup_eq_some_iff.1 found
    have present : ("class", cls) ∈ (element tag attrs [] false).attrs := by simp [split]
    exact if_neg (by simp [other cls (mem_attrs_element present)])
  · rfl

@[simp] theorem cards_lazyImage {cls : Option String} (other : cls.any isCardClass = false)
    (src alt : String) : (lazyImage src alt cls).cards = [] := by
  refine cards_image (fun c mem => ?_) "img"
  obtain rfl : some c = cls := by simpa using mem
  exact other

@[simp] theorem isCardClass_image : isCardClass "card-image" = false := by decide

@[simp] theorem cards_outerLink (href s : String) : (outerLink href s).cards = [] := by
  simp [outerLink, isSourceAttr]

@[simp] theorem cardsIn_part? (s : Option String) (draw : String → Node) :
    cardsIn (part? s draw) = (Text.filled? s).toList.flatMap fun s => (draw s).cards := by
  unfold part?
  cases Text.filled? s with
  | none => rfl
  | some s => exact (List.append_nil _).symm

@[simp] theorem cardsIn_bullets (ss : List String) : cardsIn (bullets ss) = [] := by
  unfold bullets
  split
  · rfl
  · simp

@[simp] theorem cardsIn_container {attrs : List (String × Option String)}
    (bare : attrs.any (isSourceAttr ·.1) = false) (tag : String) (nodes : List Node) :
    cardsIn ((container tag attrs nodes).map Child.node) = nodes.flatMap Node.cards := by
  unfold container
  split
  next empty =>
    rw [List.isEmpty_iff.1 empty]
    rfl
  next =>
    rw [Option.map_some, cardsIn_node, cards_element bare, List.flatMap_map]
    rfl

/-- The cards of a drawing, which may show nothing. -/
def drawnCards (node : Option Node) : List String := cardsIn (node.map .node)

/-! ## Images of cards -/

/-- A value that is given under a name that stays is written under it. -/
theorem Written.lookup {attrs : List (String × Value)} {as : List (String × String)}
    (h : Written attrs as) (distinct : ((attrs.map Prod.fst).map attrName).Nodup) {k s : String}
    {v : Value} (mem : (k, v) ∈ attrs) (there : v ≠ .null) (text : Reader.text v = .ok s)
    (stays : attrName k = k) : as.lookup k = some s := by
  induction attrs generalizing as with
  | nil => cases mem
  | cons a attrs ih =>
    obtain ⟨k', v'⟩ := a
    obtain ⟨other, distinct⟩ := List.nodup_cons.1 distinct
    rcases List.mem_cons.1 mem with same | mem
    · cases same
      obtain ⟨absent, -⟩ | ⟨s', more, text', rfl, -⟩ := h.first
      · exact absurd absent there
      · cases text.symm.trans text'
        rw [stays]
        exact List.lookup_cons_self
    · have ne : k ≠ attrName k' := by
        intro same
        rw [← same, ← stays] at other
        exact other (List.mem_map_of_mem (List.mem_map_of_mem mem))
      obtain ⟨-, hmore⟩ | ⟨s', more, -, rfl, hmore⟩ := h.first
      · exact ih hmore distinct mem
      · rw [List.lookup_cons, beq_false_of_ne ne]
        exact ih hmore distinct mem

theorem Written.lookup_none {attrs : List (String × Value)} {as : List (String × String)}
    (h : Written attrs as) {name : String} (absent : name ∉ (attrs.map Prod.fst).map attrName) :
    as.lookup name = none := by
  rw [List.lookup_eq_none_iff]
  intro a ha
  exact bne_iff_ne.2 fun same => absent (same ▸ h.names a ha)

theorem isCardClass_front {front : String}
    (h : front ∈ ["stat-card stat-", "stat-card-skeleton stat-"]) (type : String) :
    isCardClass (front ++ type) = true := by
  refine List.any_eq_true.2 ⟨front, h, ?_⟩
  rw [List.isPrefixOf_iff_prefix, String.toList_append]
  exact List.prefix_append ..

/-- The image of a card has its source, whether it is loaded or not. -/
theorem cardNode_cards {status : ImageStatus} {src alt : Value} {type s : String} {n : Node}
    (there : src ≠ .null) (text : Reader.text src = .ok s)
    (h : cardNode status src alt type = .ok n) : n.cards = [s] := by
  have alone {tag : String} {as : List (String × String)} (source : cardSource? as = some s) :
      (Node.mk tag as [] false).cards = [s] := by
    refine (cards_mk tag as [] false).trans ?_
    rw [source]
    rfl
  unfold cardNode at h
  split at h
  · have distinct : (["src", "alt", "loading", "class"].map attrName).Nodup := by decide
    obtain ⟨as, rfl, has⟩ := elementOf_eq_ok (by exact distinct) h
    have cls : as.lookup "class" = some ("stat-card stat-" ++ type) :=
      has.lookup distinct (List.mem_of_getElem? (i := 3) rfl) Value.noConfusion rfl (by decide)
    have here : as.lookup "src" = some s :=
      has.lookup distinct (by simp) there text (by decide)
    refine alone ?_
    rw [cardSource?, cls, here]
    exact if_pos (isCardClass_front (by simp) type)
  · let names := ["class", "role", "aria-label", "aria-busy", "data-status", "data-src"]
    have distinct : (names.map attrName).Nodup := by decide
    have absent : "src" ∉ names.map attrName := by decide
    obtain ⟨as, rfl, has⟩ := elementOf_eq_ok (by exact distinct) h
    have cls : as.lookup "class" = some ("stat-card-skeleton stat-" ++ type) :=
      has.lookup distinct (List.mem_cons_self ..) Value.noConfusion rfl (by decide)
    have later : as.lookup "data-src" = some s :=
      has.lookup distinct (by simp) there text (by decide)
    refine alone ?_
    rw [cardSource?, cls, has.lookup_none absent, later]
    exact if_pos (isCardClass_front (by simp) type)

/-- Sources as a page writes them. -/
def AreWritten (sources : List Value) (texts : List String) : Prop :=
  List.Forall₂ (fun v s => Reader.text v = .ok s) sources texts

theorem card_cards {src : Value} (there : src ≠ .null) (alt : Value) (type : String) :
    (card src alt type).Returns fun n => AreWritten [src] n.cards := by
  intro t n t' hrun
  obtain ⟨s, text⟩ := (card_returnsIff {} src alt type t).1 ⟨n, t', hrun⟩ src
    (List.mem_cons_self ..) there
  rw [cardNode_cards there text (card_eq_ok (outcome_ok.2 ⟨t', hrun⟩))]
  exact .cons text .nil

/-- Members without cards make a group without cards. -/
theorem drawMembers_cards {draw : α → Drawing Node}
    (bare : ∀ a, (draw a).Returns fun n => n.cards = []) (members : List (Placed α)) :
    (drawMembers draw members).Returns fun nodes => nodes.flatMap Node.cards = [] := by
  have each : (drawMembers draw members).Returns
      (List.Forall₂ (fun _ n => n.cards = []) (members.filter (·.visible))) :=
    Returns.mapM fun p _ => bare p.content
  refine each.mono fun nodes h => List.flatMap_eq_nil_iff.2 ?_
  intro n hn
  obtain ⟨i, hi, rfl⟩ := List.getElem_of_mem hn
  exact h.get (h.length_eq ▸ hi) hi

end Preview

/-! ## Elements -/

namespace Element

/-- The sources of the cards that an element is drawn as. -/
def cards : Element → List Value
  | .statsCard e => [.text e.imageUrl]
  | .graph e => [.text e.imageUrl]
  | .custom e => (e.setting? "image_url").toList
  | _ => []

theorem Code.draw_cards (k : Code) : k.draw.cards = [] := by
  unfold Code.draw
  dsimp only
  split <;> simp [isSourceAttr]

theorem Quote.draw_cards (q : Quote) : q.draw.cards = [] := by
  simp [Quote.draw]

theorem Image.draw_cards (c : Context) (i : Image) : (i.draw c).Returns fun n => n.cards = [] := by
  unfold Image.draw
  refine Returns.after fun src => ?_
  have image : (element "img"
      [("src", some src), ("alt", some i.alt), ("width", (sizeOf? i.width).map toString),
        ("height", (sizeOf? i.height).map toString), ("loading", some "lazy"),
        ("class", i.size.map fun s => "img-" ++ Named.name s)] [] false).cards = [] := by
    refine cards_image (fun cls mem => ?_) "img"
    have sized : some cls = i.size.map fun s => "img-" ++ Named.name s := by simpa using mem
    obtain ⟨size, -, rfl⟩ := Option.map_eq_some_iff.1 sized.symm
    cases size <;> decide
  dsimp only
  split
  · exact Returns.after fun href => returns_pure (by simp [isSourceAttr, image])
  · exact returns_pure (by simp [isSourceAttr, image])

theorem Badge.draw_cards (c : Context) (b : Badge) : (b.draw c).Returns fun n => n.cards = [] := by
  unfold Badge.draw
  dsimp only
  split
  · exact Returns.after fun href => returns_pure (by simp [isSourceAttr])
  · exact returns_pure (by simp)

theorem Stat.draw_cards (s : Stat) : s.draw.cards = [] := by
  simp [Stat.draw, isSourceAttr]

theorem Social.draw_cards (c : Context) (s : Social) :
    (s.draw c).Returns fun n => n.cards = [] := by
  unfold Social.draw
  refine Returns.after fun href => returns_pure ?_
  split <;> simp [isSourceAttr]

theorem Typing.draw_cards (t : Typing) : drawnCards t.draw = [] := by
  unfold Typing.draw
  split
  · rfl
  · simp [drawnCards, isSourceAttr]

theorem optionalLink_cardsIn (c : Context) (url : Option String) (s : String) :
    (optionalLink c url s).Returns fun link => cardsIn link = [] := by
  unfold optionalLink
  split
  · exact Returns.after fun href => returns_pure (by simp)
  · exact returns_pure rfl

theorem Card.draw_cards (c : Context) (k : Card) : (k.draw c).Returns fun n => n.cards = [] := by
  unfold Card.draw
  exact (optionalLink_cardsIn c k.url _).bind fun link h =>
    returns_pure (by simp [isSourceAttr, h])

theorem ProjectCard.draw_cards (p : ProjectCard) : p.draw.cards = [] := by
  simp [ProjectCard.draw, isSourceAttr, List.flatMap_map, -List.map_take]

theorem Position.draw_cards (p : Position) : p.draw.cards = [] := by
  have tech (ss : List String) : cardsIn
      (if ss.isEmpty then none
        else inside (classed "p" "timeline-tech" ("Tech: " ++ Text.join ", " ss))) = [] := by
    split
    · rfl
    · simp
  unfold Position.draw
  dsimp only
  rw [cards_element rfl]
  simp [tech, -List.isEmpty_iff]

theorem Study.draw_cards (s : Study) : s.draw.cards = [] := by
  simp [Study.draw, isSourceAttr]

theorem Award.draw_cards (c : Context) (a : Award) : (a.draw c).Returns fun n => n.cards = [] := by
  unfold Award.draw
  dsimp only
  split
  · exact Returns.after fun href => returns_pure (by simp [isSourceAttr])
  · exact returns_pure (by simp [isSourceAttr])

/-- The cards of a drawing are those of these sources. -/
def HasCards (sources : List Value) (node : Option Node) : Prop :=
  AreWritten sources (drawnCards node)

theorem hasCards_nil {node : Option Node} (h : drawnCards node = []) : HasCards [] node := by
  unfold HasCards
  rw [h]
  exact .nil

theorem returns_cardless {x : Drawing Node} (h : x.Returns fun n => n.cards = []) :
    (some <$> x).Returns (HasCards []) :=
  h.map fun _ bare => hasCards_nil bare

theorem Custom.setting_ne_null {e : Custom} {name : String} {v : Value}
    (h : e.setting? name = some v) : v ≠ .null := by
  rintro rfl
  cases (Option.filter_eq_some_iff.1 h).2

/-- A custom block that names an image is a card, and no other one is. -/
theorem Custom.draw_cards (e : Custom) :
    e.draw.Returns (HasCards (e.setting? "image_url").toList) := by
  unfold Custom.draw
  cases found : e.setting? "image_url" with
  | some src => exact (card_cards (Custom.setting_ne_null found) _ _).map fun _ h => h
  | none =>
    dsimp only
    split
    · exact returns_pure .nil
    · split
      · exact returns_pure (hasCards_nil (by simp [drawnCards, isSourceAttr]))
      · split
        · refine Returns.after fun safe => returns_pure (hasCards_nil ?_)
          simp [drawnCards, isSourceAttr]
        · exact returns_pure (hasCards_nil (by simp [drawnCards, isSourceAttr]))

theorem Phrase.draw_cards (p : Phrase) : drawnCards p.draw = [] := by
  unfold Phrase.draw
  split <;> simp [drawnCards, isSourceAttr]

theorem Heading.draw_cards (h : Heading) : drawnCards h.draw = [] := by
  unfold Heading.draw
  split <;> simp [drawnCards, isSourceAttr]

theorem draw_cards (c : Context) (e : Element) : (e.draw c).Returns (HasCards e.cards) := by
  have members {nodes : List Node} {cls : String} (bare : nodes.flatMap Node.cards = []) :
      HasCards [] (container "div" [("class", some cls)] nodes) :=
    hasCards_nil ((cardsIn_container rfl "div" nodes).trans bare)
  cases e with
  | text e => exact returns_pure (hasCards_nil e.draw_cards)
  | heading e => exact returns_pure (hasCards_nil e.draw_cards)
  | code e => exact returns_pure (hasCards_nil e.draw_cards)
  | quote e => exact returns_pure (hasCards_nil e.draw_cards)
  | image e => exact returns_cardless (e.draw_cards c)
  | link e =>
    exact returns_cardless (Returns.after fun href => returns_pure (by simp [isSourceAttr]))
  | badge e => exact returns_cardless (e.draw_cards c)
  | spacer e => exact returns_pure (hasCards_nil (by simp [Spacer.draw, drawnCards, isSourceAttr]))
  | rule e => exact returns_pure (hasCards_nil (by simp [Rule.draw, drawnCards, isSourceAttr]))
  | stat e => exact returns_pure (hasCards_nil e.draw_cards)
  | social e => exact returns_cardless (e.draw_cards c)
  | typing e => exact returns_pure (hasCards_nil e.draw_cards)
  | statsCard e => exact (card_cards Value.noConfusion _ _).map fun _ h => h
  | graph e => exact (card_cards Value.noConfusion _ _).map fun _ h => h
  | card e => exact returns_cardless (e.draw_cards c)
  | projectCard e => exact returns_pure (hasCards_nil e.draw_cards)
  | position e => exact returns_pure (hasCards_nil e.draw_cards)
  | study e => exact returns_pure (hasCards_nil e.draw_cards)
  | award e => exact returns_cardless (e.draw_cards c)
  | custom e => exact e.draw_cards
  | badgeGroup e =>
    exact (drawMembers_cards (Badge.draw_cards c) e.members).bind fun nodes bare =>
      returns_pure (members bare)
  | statGroup e =>
    exact (drawMembers_cards (fun s => returns_pure s.draw_cards) e.members).bind
      fun nodes bare => returns_pure (members bare)
  | socialGroup e =>
    exact (drawMembers_cards (Social.draw_cards c) e.members).bind fun nodes bare =>
      returns_pure (members bare)

end Element

/-! ## Blocks -/

mutual

/-- The sources of the cards that a drawn block shows, in order. What is nested in an item shows
with the item. -/
def Block.cardsShown : Block → List Value
  | .element _ visible content => if visible then content.cards else []
  | .stack _ visible _ children => if visible then Block.cardsShownAll children else []
  | .list _ visible _ items => if visible then Item.cardsShownAll items else []

def Block.cardsShownAll : List Block → List Value
  | [] => []
  | b :: bs => b.cardsShown ++ Block.cardsShownAll bs

def Item.cardsShownAll : List Item → List Value
  | [] => []
  | .text content _ nested :: rest =>
    (if content.isEmpty then [] else Item.cardsShownAll nested) ++ Item.cardsShownAll rest
  | .block content _ nested :: rest =>
    (if content.shows Element.isDrawn then content.cardsShown ++ Item.cardsShownAll nested else [])
      ++ Item.cardsShownAll rest

end

/-- The cards of drawn nodes are those of these sources. -/
def HaveCards (sources : List Value) (nodes : List Node) : Prop :=
  AreWritten sources (nodes.flatMap Node.cards)

theorem arrange_cards {layout : Layout} {nodes : List Node} {sources : List Value}
    (h : HaveCards sources nodes) : Element.HasCards sources (arrange layout nodes) := by
  have same : drawnCards (arrange layout nodes) = nodes.flatMap Node.cards := by
    cases layout <;> exact cardsIn_container rfl _ nodes
  unfold Element.HasCards
  rwa [same]

theorem listOf_cards {marker : ListMarker} {nodes : List Node} {sources : List Value}
    (h : HaveCards sources nodes) : Element.HasCards sources (listOf marker nodes) := by
  have same : drawnCards (listOf marker nodes) = nodes.flatMap Node.cards := by
    cases marker <;> exact cardsIn_container rfl _ nodes
  unfold Element.HasCards
  rwa [same]

theorem entry_cards (icon : Option String) (content : Child) (below : Option Node) (raw : Bool) :
    (entry icon content below raw).cards = cardsIn (some content) ++ drawnCards below := by
  simp [entry, drawnCards]

mutual

/-- The cards in the tree of a block are those that the block shows. -/
theorem Block.drawTree_cards (c : Context) : ∀ b : Block,
    (b.drawTree c).Returns (Element.HasCards b.cardsShown)
  | .element _ visible content => by
    unfold Block.drawTree Block.cardsShown
    cases visible with
    | false => exact returns_pure .nil
    | true => exact content.draw_cards c
  | .stack _ visible layout children => by
    unfold Block.drawTree Block.cardsShown
    cases visible with
    | false => exact returns_pure .nil
    | true =>
      exact (Block.drawAll_cards c children).bind fun nodes h => returns_pure (arrange_cards h)
  | .list _ visible marker items => by
    unfold Block.drawTree Block.cardsShown
    cases visible with
    | false => exact returns_pure .nil
    | true =>
      exact (Item.drawAll_cards c marker items).bind fun nodes h => returns_pure (listOf_cards h)

theorem Block.drawAll_cards (c : Context) : ∀ bs : List Block,
    (Block.drawAll c bs).Returns (HaveCards (Block.cardsShownAll bs))
  | [] => by unfold Block.drawAll Block.cardsShownAll; exact returns_pure .nil
  | b :: bs => by
    unfold Block.drawAll Block.cardsShownAll
    refine (Block.drawTree_cards c b).bind fun node hb => ?_
    refine (Block.drawAll_cards c bs).bind fun nodes hbs => returns_pure ?_
    unfold HaveCards
    rw [List.flatMap_append]
    refine List.rel_append ?_ hbs
    have same : node.toList.flatMap Node.cards = drawnCards node := by
      cases node with
      | none => rfl
      | some n => exact List.append_nil _
    rwa [same]

theorem Item.drawAll_cards (c : Context) (marker : ListMarker) : ∀ items : List Item,
    (Item.drawAll c marker items).Returns (HaveCards (Item.cardsShownAll items))
  | [] => by unfold Item.drawAll Item.cardsShownAll; exact returns_pure .nil
  | .text content icon nested :: rest => by
    unfold Item.drawAll Item.cardsShownAll
    refine (Item.drawAll_cards c marker nested).bind fun below hbelow => ?_
    refine (Item.drawAll_cards c marker rest).bind fun nodes hnodes => ?_
    cases content.isEmpty with
    | true => exact returns_pure hnodes
    | false =>
      refine returns_pure ?_
      unfold HaveCards
      rw [List.flatMap_cons, entry_cards]
      exact List.rel_append (listOf_cards hbelow) hnodes
  | .block content icon nested :: rest => by
    unfold Item.drawAll Item.cardsShownAll
    refine (Item.drawAll_cards c marker nested).bind fun below hbelow => ?_
    refine ((Block.drawTree_cards c content).and (Block.drawTree_isSome c content)).bind
      fun node hnode => ?_
    refine (Item.drawAll_cards c marker rest).bind fun nodes hnodes => ?_
    -- an item is drawn with its block or not at all, whatever is nested in it
    rw [← hnode.2]
    cases node with
    | none => exact returns_pure hnodes
    | some n =>
      refine returns_pure ?_
      unfold HaveCards
      rw [List.flatMap_cons, entry_cards]
      exact List.rel_append (List.rel_append hnode.1 (listOf_cards hbelow)) hnodes

end

end ProfileReadme
