/-
The markup of a preview. All its tags are those of the drawn tree and, inside lines, those of
emphases; every other bracket of a text or of an attribute is escaped. So no text can add an
element or an attribute, but for custom blocks whose content is markup of its own.
-/
import ProfileReadme.Proofs.Preview.Links
import ProfileReadme.Proofs.Preview.Raw
import Mathlib.Tactic.IntervalCases

namespace ProfileReadme

namespace Preview

open Text Inline

/-! ## Tags -/

/-- The names of the elements that blocks and emphases are drawn as. -/
def tagNames : List String :=
  ["span", "h1", "h2", "h3", "h4", "h5", "h6", "p", "pre", "code", "blockquote", "footer", "cite",
    "img", "a", "div", "hr", "ul", "ol", "li", "strong", "em", "del"]

/-- The names of their attributes. -/
def attrNames : List String :=
  ["class", "src", "alt", "width", "height", "loading", "href", "title", "target", "rel", "style",
    "role", "aria-label", "aria-busy", "data-status", "data-src"]

/-- Attributes as they stand in a tag. -/
def attrsText (attrs : List (String × String)) : String :=
  Text.join "" (attrs.map fun (k, v) => " " ++ k ++ "=\"" ++ v ++ "\"")

/-- A tag of an element that is known, with attributes that are known. No value holds a quote or a
bracket that could end it. -/
inductive IsTag : String → Prop
  | closing {name : String} (known : name ∈ tagNames) : IsTag ("</" ++ name ++ ">")
  | opening {name finish : String} {attrs : List (String × String)} (known : name ∈ tagNames)
      (attrsKnown : ∀ a ∈ attrs, a.1 ∈ attrNames)
      (quoted : ∀ a ∈ attrs, ∀ c ∈ a.2.toList, c ≠ '"' ∧ c ≠ '<' ∧ c ≠ '>')
      (ends : finish ∈ [">", " />"]) : IsTag ("<" ++ name ++ attrsText attrs ++ finish)

theorem attrsText_apart {attrs : List (String × String)} (known : ∀ a ∈ attrs, a.1 ∈ attrNames)
    (quoted : ∀ a ∈ attrs, ∀ c ∈ a.2.toList, c ≠ '"' ∧ c ≠ '<' ∧ c ≠ '>') :
    '<' ∉ (attrsText attrs).toList := by
  have names : ∀ name ∈ attrNames, (!name.toList.contains '<') = true := by decide
  rw [attrsText, Text.join_toList, List.flatMap_map, List.mem_flatMap]
  rintro ⟨⟨k, v⟩, mem, inAttr⟩
  have inName : '<' ∉ k.toList := by simpa using names k (known _ mem)
  have inValue : '<' ∉ v.toList := fun hv => (quoted _ mem _ hv).2.1 rfl
  simp [inName, inValue] at inAttr

/-- A tag holds no opening bracket but its first character. -/
theorem IsTag.opens_once {t : String} (h : IsTag t) : '<' ∉ t.toList.tail := by
  have names : ∀ name ∈ tagNames, (!name.toList.contains '<') = true := by decide
  have finishes : ∀ finish ∈ [">", " />"], (!finish.toList.contains '<') = true := by decide
  cases h with
  | @closing name known =>
    have inName := names name known
    simpa using inName
  | @opening name finish attrs known attrsKnown quoted ends =>
    have inName := names name known
    have inEnd := finishes finish ends
    have inAttrs := attrsText_apart attrsKnown quoted
    simp only [Bool.not_eq_true', List.contains_eq_mem, decide_eq_false_iff_not] at inName inEnd
    simp [inName, inEnd, inAttrs]

theorem isTag_of_emphasis : ∀ t ∈ emphasisTags, IsTag t := by
  have both (name : String) (known : name ∈ tagNames) :
      IsTag ("<" ++ name ++ ">") ∧ IsTag ("</" ++ name ++ ">") := by
    have bare : IsTag ("<" ++ name ++ attrsText [] ++ ">") := .opening known nofun nofun (by simp)
    have same : attrsText [] = "" := rfl
    rw [same, String.append_empty] at bare
    exact ⟨bare, .closing known⟩
  obtain ⟨strong, strong'⟩ := both "strong" (by decide)
  obtain ⟨em, em'⟩ := both "em" (by decide)
  obtain ⟨code, code'⟩ := both "code" (by decide)
  obtain ⟨del, del'⟩ := both "del" (by decide)
  unfold emphasisTags
  simp only [List.forall_mem_cons]
  exact ⟨strong, strong', em, em', code, code', del, del', nofun⟩

theorem isTag_opening {tag finish : String} {attrs : List (String × String)}
    (known : tag ∈ tagNames) (attrsKnown : ∀ a ∈ attrs, a.1 ∈ attrNames)
    (ends : finish ∈ [">", " />"]) : IsTag ("<" ++ tag ++ writeAttrs attrs ++ finish) := by
  have text : writeAttrs attrs = attrsText (attrs.map fun (k, v) => (k, escapeAttribute v)) := by
    unfold writeAttrs attrsText
    rw [List.map_map]
    rfl
  rw [text]
  refine .opening known ?_ ?_ ends
  · exact List.forall_mem_map.2 attrsKnown
  · exact List.forall_mem_map.2 fun a _ => not_mark_escapeAttribute a.2

mutual

/-- The tags of a tree, in the order in which they are written. -/
def Node.tags : Node → List String
  | .mk tag attrs children _ =>
    let head := "<" ++ tag ++ writeAttrs attrs
    if tag ∈ voidTags then [head ++ " />"]
    else (head ++ ">") :: (Child.tagsAll children ++ ["</" ++ tag ++ ">"])

def Child.tagsAll : List Child → List String
  | [] => []
  | .text _ :: rest => Child.tagsAll rest
  | .node n :: rest => n.tags ++ Child.tagsAll rest

end

mutual

/-- A tree of elements that are known, with attributes that are known. -/
def Node.Known : Node → Prop
  | .mk tag attrs children _ =>
    tag ∈ tagNames ∧ (∀ a ∈ attrs, a.1 ∈ attrNames) ∧ Child.AllKnown children

def Child.AllKnown : List Child → Prop
  | [] => True
  | .text _ :: rest => Child.AllKnown rest
  | .node n :: rest => n.Known ∧ Child.AllKnown rest

end

mutual

/-- A tree of known elements has known tags only. -/
theorem Node.known_isTag : ∀ n : Node, n.Known → ∀ t ∈ n.tags, IsTag t
  | .mk tag attrs children raw, h => by
    obtain ⟨known, attrsKnown, inner⟩ := h
    unfold Node.tags
    dsimp only
    split
    · exact List.forall_mem_singleton.2 (isTag_opening known attrsKnown (by simp))
    · refine List.forall_mem_cons.2 ⟨isTag_opening known attrsKnown (by simp), ?_⟩
      refine List.forall_mem_append.2 ⟨Child.allKnown_isTag children inner, ?_⟩
      exact List.forall_mem_singleton.2 (.closing known)

theorem Child.allKnown_isTag : ∀ cs : List Child, Child.AllKnown cs →
    ∀ t ∈ Child.tagsAll cs, IsTag t
  | [], _ => nofun
  | .text _ :: rest, h => Child.allKnown_isTag rest h
  | .node n :: rest, h =>
    List.forall_mem_append.2 ⟨Node.known_isTag n h.1, Child.allKnown_isTag rest h.2⟩

end

/-! ## Markup -/

/-- The tags of a text are those of a tree, with tags of emphases between them. -/
structure Adds (tags own : List String) : Prop where
  kept : own.Sublist tags
  others : tags.filter (· ∉ emphasisTags) = own.filter (· ∉ emphasisTags)

theorem Adds.append {tags tags' own own' : List String} (h : Adds tags own) (h' : Adds tags' own') :
    Adds (tags ++ tags') (own ++ own') :=
  ⟨h.kept.append h'.kept, by rw [List.filter_append, List.filter_append, h.others, h'.others]⟩

theorem adds_self (tags : List String) : Adds tags tags := ⟨.refl _, rfl⟩

theorem adds_emphasis {tags : List String} (h : ∀ t ∈ tags, t ∈ emphasisTags) : Adds tags [] :=
  ⟨List.nil_sublist _, List.filter_eq_nil_iff.2 fun t ht => by simp [h t ht]⟩

/-- Escaped text in which the tags of a tree stand, and otherwise only tags of emphases. -/
def Marked (own : List String) (s : String) : Prop :=
  ∃ tags source, Tagged tags source s.toList ∧ Adds tags own

theorem Marked.append {own own' : List String} {s s' : String} (h : Marked own s)
    (h' : Marked own' s') : Marked (own ++ own') (s ++ s') := by
  obtain ⟨tags, source, tagged, adds⟩ := h
  obtain ⟨tags', source', tagged', adds'⟩ := h'
  exact ⟨tags ++ tags', source ++ source', String.toList_append ▸ tagged.append tagged',
    adds.append adds'⟩

theorem marked_tag (t : String) : Marked [t] t := ⟨[t], [], tagged_single t, adds_self _⟩

/-- A text of a tree is an emphasised line, or it is escaped. -/
theorem marked_text {raw : Bool} {s : String} (h : raw → ∃ words, Emphasised words s.toList) :
    Marked [] (if raw then s else escapeContent s) := by
  cases raw with
  | true =>
    obtain ⟨-, tags, source, tagged, emphasis, -⟩ := h rfl
    exact ⟨tags, source, tagged, adds_emphasis emphasis⟩
  | false => exact ⟨[], s.toList, tagged_escapeContent s, adds_self []⟩

mutual

/-- The markup of a tree whose raw texts have no tags but those of emphases. -/
theorem Node.html_marked : ∀ n : Node, (∀ s ∈ n.rawTexts, ∃ words, Emphasised words s.toList) →
    Marked n.tags n.html
  | .mk tag attrs children raw, h => by
    unfold Node.tags Node.html
    dsimp only
    split
    · exact marked_tag _
    · have inner := Child.htmlAll_marked raw children h
      have whole := (marked_tag ("<" ++ tag ++ writeAttrs attrs ++ ">")).append
        (inner.append (marked_tag ("</" ++ tag ++ ">")))
      simpa [String.append_assoc] using whole

theorem Child.htmlAll_marked (raw : Bool) : ∀ cs : List Child,
    (∀ s ∈ Child.rawTextsAll raw cs, ∃ words, Emphasised words s.toList) →
      Marked (Child.tagsAll cs) (Child.htmlAll raw cs)
  | [], _ => ⟨[], [], .nil, adds_self []⟩
  | .text s :: rest, h => by
    rw [Child.rawTextsAll, List.forall_mem_append] at h
    have own : Marked [] (if raw then s else escapeContent s) := marked_text fun isRaw =>
      h.1 s (by simp [isRaw])
    exact own.append (Child.htmlAll_marked raw rest h.2)
  | .node n :: rest, h => by
    rw [Child.rawTextsAll, List.forall_mem_append] at h
    exact (Node.html_marked n h.1).append (Child.htmlAll_marked raw rest h.2)

end

/-! ## Known parts -/

/-- A part, which may be absent, whose elements are known. -/
def KnownIn : Option Child → Prop
  | some (.node n) => n.Known
  | _ => True

@[simp] theorem knownIn_none : KnownIn none := trivial

@[simp] theorem knownIn_words (s : String) : KnownIn (words s) := trivial

@[simp] theorem knownIn_inside (n : Node) : KnownIn (inside n) ↔ n.Known := Iff.rfl

@[simp] theorem knownIn_node (n : Node) : KnownIn (some (.node n)) ↔ n.Known := Iff.rfl

/-- An element is known by its name, the names of the attributes that are there, and its parts. -/
@[simp] theorem known_element (tag : String) (attrs : List (String × Option String))
    (parts : List (Option Child)) (raw : Bool) : (element tag attrs parts raw).Known ↔
      tag ∈ tagNames ∧ (∀ a ∈ attrs, a.2.isSome → a.1 ∈ attrNames) ∧ ∀ p ∈ parts, KnownIn p := by
  refine and_congr_right' (and_congr ?_ ?_)
  · constructor
    · intro h a ha there
      obtain ⟨v, hv⟩ := Option.isSome_iff_exists.1 there
      have present : a.2.map (a.1, ·) = some (a.1, v) := by rw [hv]; rfl
      exact h (a.1, v) (List.mem_filterMap.2 ⟨a, ha, present⟩)
    · intro h a ha
      obtain ⟨⟨k, v⟩, hmem, hv⟩ := List.mem_filterMap.1 ha
      obtain ⟨w, rfl, rfl⟩ := Option.map_eq_some_iff.1 hv
      exact h _ hmem rfl
  · induction parts with
    | nil => exact iff_of_true trivial nofun
    | cons part rest ih =>
      rw [List.forall_mem_cons, ← ih]
      rcases part with _ | s | n
      · exact (and_iff_right trivial).symm
      · exact (and_iff_right trivial).symm
      · exact Iff.rfl

@[simp] theorem known_classed (tag cls s : String) :
    (classed tag cls s).Known ↔ tag ∈ tagNames := by
  simp [classed, attrNames]

@[simp] theorem known_plain (tag s : String) : (plain tag s).Known ↔ tag ∈ tagNames := by
  simp [plain]

@[simp] theorem known_lazyImage (src alt : String) (cls : Option String) :
    (lazyImage src alt cls).Known := by
  simp [lazyImage, tagNames, attrNames]

@[simp] theorem known_outerLink (href s : String) : (outerLink href s).Known := by
  simp [outerLink, tagNames, attrNames]

@[simp] theorem knownIn_part? (s : Option String) (draw : String → Node) :
    KnownIn (part? s draw) ↔ ∀ x ∈ Text.filled? s, (draw x).Known := by
  unfold part?
  cases Text.filled? s with
  | none => exact iff_of_true trivial nofun
  | some x => exact ⟨fun h _ same => by cases same; exact h, fun h => h x rfl⟩

@[simp] theorem knownIn_bullets (ss : List String) : KnownIn (bullets ss) := by
  unfold bullets
  split <;> simp [tagNames]

/-- A drawing of known elements, if it shows anything. -/
def KnownDrawn (node : Option Node) : Prop := KnownIn (node.map .node)

theorem known_container {tag : String} {attrs : List (String × Option String)} {nodes : List Node}
    (known : tag ∈ tagNames) (attrsKnown : ∀ a ∈ attrs, a.2.isSome → a.1 ∈ attrNames)
    (inner : ∀ n ∈ nodes, n.Known) : KnownDrawn (container tag attrs nodes) := by
  unfold container
  split
  · trivial
  · have parts : ∀ p ∈ nodes.map inside, KnownIn p := List.forall_mem_map.2 inner
    exact (known_element tag attrs _ false).2 ⟨known, attrsKnown, parts⟩

/-- A card is an image or a skeleton. -/
theorem card_known (src alt : Value) (type : String) :
    (card src alt type).Returns Node.Known := by
  intro t n t' hrun
  have drawn := card_eq_ok (Drawing.outcome_ok.2 ⟨t', hrun⟩)
  -- the names of the attributes are given, whatever their values are
  have known {tag : String} {attrs : List (String × Value)} (names : List String)
      (h : elementOf tag attrs [] false = .ok n) (known : tag ∈ tagNames)
      (hnames : attrs.map Prod.fst = names) (distinct : (names.map attrName).Nodup)
      (all : ∀ k ∈ names.map attrName, k ∈ attrNames) : n.Known := by
    subst hnames
    obtain ⟨as, rfl, has⟩ := elementOf_eq_ok distinct h
    exact ⟨known, fun a ha => all a.1 (has.names a ha), trivial⟩
  unfold cardNode at drawn
  split at drawn
  · exact known ["src", "alt", "loading", "class"] drawn (by decide) rfl (by decide) (by decide)
  · exact known ["class", "role", "aria-label", "aria-busy", "data-status", "data-src"] drawn
      (by decide) rfl (by decide) (by decide)

theorem drawMembers_known {draw : α → Drawing Node} (h : ∀ a, (draw a).Returns Node.Known)
    (members : List (Placed α)) :
    (drawMembers draw members).Returns fun nodes => ∀ n ∈ nodes, n.Known := by
  have each : (drawMembers draw members).Returns
      (List.Forall₂ (fun _ n => n.Known) (members.filter (·.visible))) :=
    Drawing.Returns.mapM fun p _ => h p.content
  refine each.mono fun nodes drawn => ?_
  generalize members.filter (·.visible) = shown at drawn
  induction drawn with
  | nil => exact nofun
  | cons known _ ih => exact List.forall_mem_cons.2 ⟨known, ih⟩

end Preview

/-! ## Elements -/

open Preview Preview.Drawing

namespace Element

variable (c : Context)

theorem Stat.draw_known (s : Stat) : s.draw.Known := by
  simp [Stat.draw, tagNames, attrNames]

theorem Image.draw_known (i : Image) : (i.draw c).Returns Node.Known := by
  unfold Image.draw
  refine Returns.after fun src => ?_
  dsimp only
  split
  · exact Returns.after fun href => returns_pure (by simp [tagNames, attrNames])
  · exact returns_pure (by simp [tagNames, attrNames])

theorem Link.draw_known (l : Link) : (l.draw c).Returns Node.Known :=
  Returns.after fun href => returns_pure (by simp [tagNames, attrNames])

theorem Badge.draw_known (b : Badge) : (b.draw c).Returns Node.Known := by
  unfold Badge.draw
  dsimp only
  split
  · exact Returns.after fun href => returns_pure (by simp [tagNames, attrNames])
  · exact returns_pure (by simp)

theorem Social.draw_known (s : Social) : (s.draw c).Returns Node.Known := by
  refine Returns.after fun href => returns_pure ?_
  split <;> simp [tagNames, attrNames]

theorem optionalLink_known (url : Option String) (s : String) :
    (optionalLink c url s).Returns KnownIn := by
  unfold optionalLink
  split
  · exact Returns.after fun href => returns_pure (by simp)
  · exact returns_pure trivial

theorem Card.draw_known (k : Card) : (k.draw c).Returns Node.Known := by
  refine (optionalLink_known c k.url "🔗 Link").bind fun link h => returns_pure ?_
  simp [h, tagNames, attrNames]

theorem Award.draw_known (a : Award) : (a.draw c).Returns Node.Known := by
  unfold Award.draw
  dsimp only
  split
  · exact Returns.after fun href => returns_pure (by simp [tagNames, attrNames])
  · exact returns_pure (by simp [tagNames, attrNames])

theorem ProjectCard.draw_known (p : ProjectCard) : p.draw.Known := by
  have box {cls : String} {nodes : List Node} (inner : ∀ n ∈ nodes, n.Known) :
      KnownDrawn (container "div" [("class", some cls)] nodes) :=
    known_container (by decide) (by simp [attrNames]) inner
  have tags : ∀ n ∈ (p.techStack.take shownTech).map (classed "span" "tech-tag")
      ++ p.counts.map (plain "span"), n.Known :=
    List.forall_mem_append.2 ⟨List.forall_mem_map.2 (by simp [tagNames]),
      List.forall_mem_map.2 (by simp [tagNames])⟩
  have links : ∀ n ∈ (Text.filled? p.repoUrl).toList.map (outerLink · "📁 Repository")
      ++ (Text.filled? p.demoUrl).toList.map (outerLink · "🚀 Live Demo"), n.Known :=
    List.forall_mem_append.2 ⟨List.forall_mem_map.2 (by simp), List.forall_mem_map.2 (by simp)⟩
  unfold ProjectCard.draw
  refine (known_element ..).2 ⟨by decide, by simp [attrNames], ?_⟩
  simp only [List.forall_mem_cons]
  exact ⟨by simp, by simp [tagNames], by simp [tagNames], box tags, box links, nofun⟩

theorem Position.draw_known (p : Position) : p.draw.Known := by
  have tech : KnownIn (if p.technologies.isEmpty then none
      else inside (classed "p" "timeline-tech" ("Tech: " ++ Text.join ", " p.technologies))) := by
    split <;> simp [tagNames]
  simp only [Position.draw, known_element, List.forall_mem_cons, tech]
  simp [tagNames, attrNames]

theorem Study.draw_known (s : Study) : s.draw.Known := by
  simp [Study.draw, tagNames, attrNames]

theorem Code.draw_known (k : Code) : k.draw.Known := by
  unfold Code.draw
  dsimp only
  split <;> simp [tagNames, attrNames]

theorem Quote.draw_known (q : Quote) : q.draw.Known := by
  simp [Quote.draw, tagNames]

theorem Phrase.draw_known (p : Phrase) : KnownDrawn p.draw := by
  unfold Phrase.draw KnownDrawn
  split <;> simp [tagNames, attrNames]

theorem Heading.draw_known (h : Heading) : KnownDrawn h.draw := by
  have level : "h" ++ toString h.level.val ∈ tagNames := by
    have low := h.level.low_le
    have high : h.level.val ≤ 6 := by simpa using h.level.le_high
    generalize h.level.val = level at low high
    interval_cases level <;> decide
  unfold Heading.draw KnownDrawn
  split
  · trivial
  · simpa [attrNames] using level

theorem Typing.draw_known (y : Typing) : KnownDrawn y.draw := by
  unfold Typing.draw KnownDrawn
  split <;> simp [tagNames, attrNames]

theorem Custom.draw_known (b : Custom) : b.draw.Returns KnownDrawn := by
  unfold Custom.draw
  split
  · exact (card_known _ _ _).map fun _ h => h
  · dsimp only
    split
    · exact returns_pure trivial
    · split
      · exact returns_pure (by simp [KnownDrawn, tagNames, attrNames])
      · split
        · exact Returns.after fun safe => returns_pure (by simp [KnownDrawn, tagNames, attrNames])
        · exact returns_pure (by simp [KnownDrawn, tagNames, attrNames])

theorem draw_known (e : Element) : (e.draw c).Returns KnownDrawn := by
  have shown {x : Drawing Node} (h : x.Returns Node.Known) : (some <$> x).Returns KnownDrawn :=
    h.map fun _ known => known
  cases e with
  | text e => exact returns_pure e.draw_known
  | heading e => exact returns_pure e.draw_known
  | code e => exact returns_pure e.draw_known
  | quote e => exact returns_pure e.draw_known
  | image e => exact shown (e.draw_known c)
  | link e => exact shown (e.draw_known c)
  | badge e => exact shown (e.draw_known c)
  | spacer e => exact returns_pure (by simp [Spacer.draw, KnownDrawn, tagNames, attrNames])
  | rule e => exact returns_pure (by simp [Rule.draw, KnownDrawn, tagNames, attrNames])
  | stat e => exact returns_pure e.draw_known
  | social e => exact shown (e.draw_known c)
  | typing e => exact returns_pure e.draw_known
  | statsCard e | graph e => exact shown (card_known _ _ _)
  | card e => exact shown (e.draw_known c)
  | projectCard e => exact returns_pure e.draw_known
  | position e => exact returns_pure e.draw_known
  | study e => exact returns_pure e.draw_known
  | award e => exact shown (e.draw_known c)
  | custom e => exact e.draw_known
  | badgeGroup e =>
    exact (drawMembers_known (Badge.draw_known c) e.members).bind fun nodes h =>
      returns_pure (known_container (by decide) (by simp [attrNames]) h)
  | statGroup e =>
    exact (drawMembers_known (fun s => returns_pure s.draw_known) e.members).bind fun nodes h =>
      returns_pure (known_container (by decide) (by simp [attrNames]) h)
  | socialGroup e =>
    exact (drawMembers_known (Social.draw_known c) e.members).bind fun nodes h =>
      returns_pure (known_container (by decide) (by simp [attrNames]) h)

end Element

/-! ## Blocks -/

theorem Preview.arrange_known (layout : Layout) {nodes : List Node} (h : ∀ n ∈ nodes, n.Known) :
    KnownDrawn (arrange layout nodes) := by
  cases layout <;> exact known_container (by decide) (by simp [attrNames]) h

theorem Preview.listOf_known (marker : ListMarker) {nodes : List Node} (h : ∀ n ∈ nodes, n.Known) :
    KnownDrawn (listOf marker nodes) := by
  cases marker <;> exact known_container (by decide) (by simp [attrNames]) h

theorem Preview.entry_known {icon : Option String} {content : Child} {below : Option Node}
    {raw : Bool} (hcontent : KnownIn (some content)) (hbelow : KnownDrawn below) :
    (entry icon content below raw).Known := by
  have nested : KnownIn (below.map .node) := hbelow
  simp [entry, hcontent, nested, tagNames]

section

variable (c : Context)

mutual

theorem Block.drawTree_known : ∀ b : Block, (b.drawTree c).Returns KnownDrawn
  | .element _ visible content => by
    unfold Block.drawTree
    split
    · exact content.draw_known c
    · exact returns_pure trivial
  | .stack _ visible layout children => by
    unfold Block.drawTree
    split
    · exact (Block.drawAll_known children).bind fun nodes h => returns_pure (arrange_known layout h)
    · exact returns_pure trivial
  | .list _ visible marker items => by
    unfold Block.drawTree
    split
    · exact (Item.drawAll_known marker items).bind fun nodes h =>
        returns_pure (listOf_known marker h)
    · exact returns_pure trivial

theorem Block.drawAll_known : ∀ bs : List Block,
    (Block.drawAll c bs).Returns fun nodes => ∀ n ∈ nodes, n.Known
  | [] => returns_pure nofun
  | b :: bs => by
    unfold Block.drawAll
    refine (Block.drawTree_known b).bind fun node hb => ?_
    refine (Block.drawAll_known bs).bind fun nodes hbs => returns_pure ?_
    cases node with
    | none => exact hbs
    | some n => exact List.forall_mem_cons.2 ⟨hb, hbs⟩

theorem Item.drawAll_known (marker : ListMarker) : ∀ items : List Item,
    (Item.drawAll c marker items).Returns fun nodes => ∀ n ∈ nodes, n.Known
  | [] => returns_pure nofun
  | .text content icon nested :: rest => by
    unfold Item.drawAll
    refine (Item.drawAll_known marker nested).bind fun below hbelow => ?_
    refine (Item.drawAll_known marker rest).bind fun nodes hnodes => ?_
    split
    · exact returns_pure hnodes
    · refine returns_pure (List.forall_mem_cons.2 ⟨?_, hnodes⟩)
      exact entry_known trivial (listOf_known marker hbelow)
  | .block content icon nested :: rest => by
    unfold Item.drawAll
    refine (Item.drawAll_known marker nested).bind fun below hbelow => ?_
    refine (Block.drawTree_known content).bind fun node hnode => ?_
    refine (Item.drawAll_known marker rest).bind fun nodes hnodes => ?_
    cases node with
    | none => exact returns_pure hnodes
    | some n =>
      refine returns_pure (List.forall_mem_cons.2 ⟨?_, hnodes⟩)
      exact entry_known hnode (listOf_known marker hbelow)

end

end

/-- A custom block whose content is markup of its own. -/
def Block.IsMarkup : Block → Prop
  | .element _ _ (.custom k) => k.customType = "markdown" ∨ k.customType = "html"
  | _ => False

theorem Element.rawPart?_line {e : Element} {id : String} {visible : Bool}
    (bare : ¬(Block.element id visible e).IsMarkup) :
    ∀ part ∈ e.rawPart?, ∃ emphasis s, part = .line emphasis s := by
  intro part h
  cases e with
  | text e =>
    change part ∈ e.rawPart? at h
    unfold Phrase.rawPart? at h
    split at h
    · cases h
    · cases h
      exact ⟨_, _, rfl⟩
  | heading e =>
    change part ∈ e.rawPart? at h
    unfold Heading.rawPart? at h
    split at h
    · cases h
    · cases h
      exact ⟨_, _, rfl⟩
  | custom e =>
    obtain ⟨markdown, markup⟩ := not_or.1 bare
    change part ∈ e.rawPart? at h
    unfold Custom.rawPart? at h
    rw [if_neg markdown, if_neg markup, ite_self] at h
    cases h
  | _ => cases h

mutual

/-- The parts that stand as markup are lines, if no block in the tree has markup of its own. -/
theorem Block.rawParts_line : ∀ b : Block, (∀ x ∈ b.walk, ¬x.IsMarkup) →
    ∀ part ∈ b.rawParts, ∃ e s, part = .line e s
  | .element id visible content, bare => by
    have own := bare _ (List.mem_cons_self ..)
    unfold Block.rawParts
    split
    · intro part h
      exact Element.rawPart?_line own part (Option.mem_toList.1 h)
    · exact nofun
  | .stack id visible layout children, bare => by
    rw [Block.walk, List.forall_mem_cons] at bare
    unfold Block.rawParts
    split
    · exact Block.allRawParts_line children bare.2
    · exact nofun
  | .list id visible marker items, bare => by
    rw [Block.walk, List.forall_mem_cons] at bare
    unfold Block.rawParts
    split
    · exact Item.allRawParts_line items bare.2
    · exact nofun

theorem Block.allRawParts_line : ∀ bs : List Block, (∀ x ∈ Block.walkAll bs, ¬x.IsMarkup) →
    ∀ part ∈ Block.allRawParts bs, ∃ e s, part = .line e s
  | [], _ => nofun
  | b :: bs, bare => by
    rw [Block.walkAll, List.forall_mem_append] at bare
    exact List.forall_mem_append.2
      ⟨Block.rawParts_line b bare.1, Block.allRawParts_line bs bare.2⟩

theorem Item.allRawParts_line : ∀ items : List Item, (∀ x ∈ Item.walkAll items, ¬x.IsMarkup) →
    ∀ part ∈ Item.allRawParts items, ∃ e s, part = .line e s
  | [], _ => nofun
  | .text content icon nested :: rest, bare => by
    rw [Item.walkAll, Item.walk, List.forall_mem_append] at bare
    refine List.forall_mem_append.2 ⟨?_, Item.allRawParts_line rest bare.2⟩
    split
    · exact nofun
    · exact List.forall_mem_cons.2 ⟨⟨_, _, rfl⟩, Item.allRawParts_line nested bare.1⟩
  | .block content icon nested :: rest, bare => by
    rw [Item.walkAll, Item.walk, List.forall_mem_append, List.forall_mem_append] at bare
    refine List.forall_mem_append.2 ⟨?_, Item.allRawParts_line rest bare.2⟩
    split
    · exact List.forall_mem_append.2
        ⟨Block.rawParts_line content bare.1.1, Item.allRawParts_line nested bare.1.2⟩
    · exact nofun

end

/-- Lines have no tags but those of emphases. -/
theorem Element.Drawn.emphasised {parts : List RawPart} {node : Option Node}
    (h : Drawn parts node) (lines : ∀ part ∈ parts, ∃ e s, part = .line e s) :
    ∀ s ∈ drawnRaw node, ∃ words, Inline.Emphasised words s.toList := by
  unfold Drawn at h
  generalize drawnRaw node = texts at h
  induction h with
  | nil => exact nofun
  | cons stands _ ih =>
    rw [List.forall_mem_cons] at lines ⊢
    obtain ⟨e, s, rfl⟩ := lines.1
    exact ⟨⟨_, stands ▸ Inline.wrap_emphasised e s⟩, ih lines.2⟩

/-- In the markup of a drawn block every opening bracket starts a tag, and all that is outside tags
is escaped. The tags are of known elements with known attributes, and no value of an attribute holds
a quote or a bracket. They are the tags of the drawn tree with tags of emphases between them. This
is so for all texts in the block, unless a custom block in it has markup of its own. -/
theorem Block.draw_tagged (c : Context) (b : Block) (bare : ∀ x ∈ b.walk, ¬x.IsMarkup)
    {t t' : Tracker} {node : Node} (h : (b.draw c).run t = (.ok (some node), t')) :
    ∃ tags source, Text.Tagged tags source node.html.toList ∧ (∀ tag ∈ tags, IsTag tag) ∧
      (∀ xs ys, node.html.toList = xs ++ '<' :: ys → ∃ tag ∈ tags, tag.toList <+: '<' :: ys) ∧
      node.tags.Sublist tags ∧
      tags.filter (· ∉ Inline.emphasisTags) = node.tags.filter (· ∉ Inline.emphasisTags) := by
  obtain ⟨known, raw⟩ :
      node.Known ∧ ∀ s ∈ node.rawTexts, ∃ words, Inline.Emphasised words s.toList := by
    unfold Block.draw at h
    split at h
    · dsimp only at h
      split at h
      · cases h
      · cases h
        exact ⟨by simp [tagNames], nofun⟩
    · refine ⟨(b.drawTree_known c).of_run h, fun s hs => ?_⟩
      have raw : s ∈ drawnRaw (some node) := by rwa [drawnRaw]
      exact ((b.drawTree_raw c).of_run h).emphasised (b.rawParts_line bare) s raw
  obtain ⟨tags, source, tagged, kept, others⟩ := node.html_marked raw
  have isTag : ∀ tag ∈ tags, IsTag tag := by
    intro tag htag
    by_cases emphasis : tag ∈ Inline.emphasisTags
    · exact isTag_of_emphasis tag emphasis
    · have own : tag ∈ node.tags.filter (· ∉ Inline.emphasisTags) :=
        others ▸ List.mem_filter.2 ⟨htag, decide_eq_true emphasis⟩
      exact node.known_isTag known tag (List.mem_filter.1 own).1
  exact ⟨tags, source, tagged, isTag,
    fun xs ys same => tagged.opens (fun tag htag => (isTag tag htag).opens_once) same, kept, others⟩

/-- A line and an image whose texts would add tags of their own. -/
def hostileRow : Block :=
  .stack "r" true (.column none)
    [.element "t" true (.text { value := "<script> *c*" }),
      .element "i" true (.image { src := "a.png", alt := "\"><script>" })]

theorem hostileRow_tagged : ∃ (node : Node) (t' : Tracker),
    (hostileRow.draw {}).run {} = (.ok (some node), t') ∧
      node.html = "<div class=\"flex-col\"><span>&lt;script&gt; <em>c</em></span>" ++
        "<p class=\"text-center\"><img src=\"a.png\" alt=\"&quot;&gt;&lt;script&gt;\" " ++
        "loading=\"lazy\" /></p></div>" ∧
      ∃ tags source, Text.Tagged tags source node.html.toList ∧ (∀ tag ∈ tags, IsTag tag) ∧
        tags.filter (· ∉ Inline.emphasisTags) = node.tags.filter (· ∉ Inline.emphasisTags) := by
  have drawn : (hostileRow.draw {}).run {} = (.ok (some _), _) := rfl
  have bare : ∀ x ∈ hostileRow.walk, ¬x.IsMarkup := by
    have inner (x : Block) (hx : x ∈ hostileRow.walk.tail) : ¬x.IsMarkup := by
      obtain rfl | rfl := List.mem_pair.1 hx <;> exact id
    exact List.forall_mem_cons.2 ⟨id, inner⟩
  obtain ⟨tags, source, tagged, isTag, -, -, others⟩ := hostileRow.draw_tagged {} bare drawn
  exact ⟨_, _, drawn, by decide +kernel, tags, source, tagged, isTag, others⟩

end ProfileReadme
