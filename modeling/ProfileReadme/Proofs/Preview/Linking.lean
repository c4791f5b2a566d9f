/-
Links in a preview. A page with a base looks like the page without one whose links are followed
from the base, but for a few that are left as they were written: those of project cards, and the
images of custom blocks.
-/
import ProfileReadme.Proofs.Preview.Links
import ProfileReadme.Proofs.Preview.Shown

namespace ProfileReadme

/-! ## Elements -/

open Preview Preview.Drawing

namespace Element

variable {c c' : Context} {t : Tracker} {n m : Node}

theorem resolve_then {u : String} {f : String → Drawing α} {a : α}
    (h : (c.resolve u >>= f).outcome t = .ok a) :
    ∃ v, Url.resolve u c.baseUrl = .ok v ∧ (f v).outcome t = .ok a := by
  unfold Context.resolve at h
  cases hv : Url.resolve u c.baseUrl with
  | error fault =>
    rw [hv] at h
    cases h
  | ok v =>
    rw [hv] at h
    exact ⟨v, rfl, h⟩

/-- Both drawings follow a link, and the one without a base gets it as it was written. -/
theorem resolve_both {u : String} {f f' : String → Drawing α} {a b : α} (bare : c.baseUrl = none)
    (h : (c.resolve u >>= f).outcome t = .ok a) (h' : (c'.resolve u >>= f').outcome t = .ok b) :
    (f u).outcome t = .ok a ∧ ∃ w, Url.resolve u c'.baseUrl = .ok w ∧ (f' w).outcome t = .ok b := by
  obtain ⟨v, hv, ha⟩ := resolve_then h
  rw [bare] at hv
  cases hv
  exact ⟨ha, resolve_then h'⟩

theorem Image.draw_follow (i : Image) (bare : c.baseUrl = none) (h : (i.draw c).outcome t = .ok n)
    (h' : (i.draw c').outcome t = .ok m) : n.follow c'.baseUrl = .ok m := by
  unfold Image.draw at h h'
  obtain ⟨h, src, hsrc, h'⟩ := resolve_both bare h h'
  dsimp only at h h'
  -- the image leads to its source and may lead on
  have image (attrs : List (String × Option String))
      (unlinked : ∀ a ∈ attrs, isLinkAttr a.1 = false) :
      (element "img" (("src", some i.src) :: attrs) [] false).follow c'.baseUrl =
        .ok (element "img" (("src", some src) :: attrs) [] false) :=
    element_follow_linked (by decide) hsrc unlinked rfl
  have attrs := image [("alt", some i.alt),
      ("width", (sizeOf? i.width).map toString), ("height", (sizeOf? i.height).map toString),
      ("loading", some "lazy"), ("class", i.size.map fun s => "img-" ++ Named.name s)]
      (by simp [isLinkAttr])
  cases link : Text.filled? i.link with
  | none =>
    rw [link] at h h'
    cases h
    cases h'
    exact (element_follow_bare (by simp [isLinkAttr])).2 (partsFollow_node attrs)
  | some link' =>
    rw [link] at h h'
    obtain ⟨h, w, hw, h'⟩ := resolve_both bare h h'
    cases h
    cases h'
    refine (element_follow_bare (by simp [isLinkAttr])).2 (partsFollow_node ?_)
    exact element_follow_linked (by decide) hw (fun a ha => by cases ha) (partsFollow_node attrs)

theorem Link.draw_follow (l : Link) (bare : c.baseUrl = none) (h : (l.draw c).outcome t = .ok n)
    (h' : (l.draw c').outcome t = .ok m) : n.follow c'.baseUrl = .ok m := by
  obtain ⟨h, w, hw, h'⟩ := resolve_both bare h h'
  cases h
  cases h'
  exact element_follow_linked (by decide) hw (by simp [isLinkAttr]) rfl

theorem Badge.draw_follow (b : Badge) (bare : c.baseUrl = none) (h : (b.draw c).outcome t = .ok n)
    (h' : (b.draw c').outcome t = .ok m) : n.follow c'.baseUrl = .ok m := by
  have image : (lazyImage b.imageUrl b.label none).follow c'.baseUrl =
      .ok (lazyImage b.imageUrl b.label none) := lazyImage_follow b.imageUrl_onHost b.label none
  unfold Badge.draw at h h'
  cases link : Text.filled? b.link with
  | none =>
    rw [link] at h h'
    cases h
    cases h'
    exact image
  | some link' =>
    rw [link] at h h'
    obtain ⟨h, w, hw, h'⟩ := resolve_both bare h h'
    cases h
    cases h'
    exact element_follow_linked (by decide) hw (by simp [isLinkAttr]) (partsFollow_node image)

theorem Social.draw_follow (s : Social) (bare : c.baseUrl = none)
    (h : (s.draw c).outcome t = .ok n) (h' : (s.draw c').outcome t = .ok m) :
    n.follow c'.baseUrl = .ok m := by
  obtain ⟨h, w, hw, h'⟩ := resolve_both bare h h'
  cases h
  cases h'
  refine element_follow_linked (by decide) hw (by simp [isLinkAttr]) ?_
  split
  · exact partsFollow_node (lazyImage_follow s.imageUrl_onHost s.text none)
  · rfl

theorem Card.draw_follow (k : Card) (bare : c.baseUrl = none) (h : (k.draw c).outcome t = .ok n)
    (h' : (k.draw c').outcome t = .ok m) : n.follow c'.baseUrl = .ok m := by
  unfold Card.draw optionalLink at h h'
  cases url : Text.filled? k.url with
  | none =>
    rw [url] at h h'
    cases h
    cases h'
    exact follow_bare (by simp [isLinkAttr])
  | some url' =>
    rw [url] at h h'
    simp only [bind_assoc, pure_bind] at h h'
    obtain ⟨h, w, hw, h'⟩ := resolve_both bare h h'
    cases h
    cases h'
    refine (element_follow_bare (by simp [isLinkAttr])).2 ?_
    have link := partsFollow_node (outerLink_follow "🔗 Link" hw)
    exact ((link.cons (by simp)).cons (by simp)).cons (by simp)

theorem Award.draw_follow (a : Award) (bare : c.baseUrl = none) (h : (a.draw c).outcome t = .ok n)
    (h' : (a.draw c').outcome t = .ok m) : n.follow c'.baseUrl = .ok m := by
  unfold Award.draw at h h'
  dsimp only at h h'
  cases url : Text.filled? a.url with
  | none =>
    rw [url] at h h'
    cases h
    cases h'
    exact follow_bare (by simp [isLinkAttr])
  | some url' =>
    rw [url] at h h'
    simp only [pure_bind] at h h'
    obtain ⟨h, w, hw, h'⟩ := resolve_both bare h h'
    cases h
    cases h'
    -- the link is in the title, which is in the content beside the icon
    refine (element_follow_bare (by simp [isLinkAttr])).2 (.cons (partsFollow_node ?_) (by simp))
    refine (element_follow_bare (by simp [isLinkAttr])).2 (.head ?_ (by simp))
    refine (element_follow_bare (by simp)).2 (partsFollow_node ?_)
    exact element_follow_linked (by decide) hw (fun a ha => by cases ha) rfl

theorem Phrase.draw_links (p : Phrase) : p.draw.toList.flatMap Node.links = [] := by
  unfold Phrase.draw
  split <;> simp [isLinkAttr]

theorem Heading.draw_links (h : Heading) : h.draw.toList.flatMap Node.links = [] := by
  unfold Heading.draw
  split <;> simp [isLinkAttr]

theorem Typing.draw_follow {base : Option String} (y : Typing) :
    FollowIff base (Stay base []) y.draw.toList y.draw.toList := by
  refine (followIff_self _).congr (iff_of_true ?_ stay_nil)
  unfold Typing.draw
  split
  · exact stay_nil
  · simpa [isLinkAttr] using stay_onHost y.imageUrl_onHost

theorem Code.draw_links (k : Code) : k.draw.links = [] := by
  unfold Code.draw
  dsimp only
  split <;> simp [isLinkAttr]

theorem Quote.draw_links (q : Quote) : q.draw.links = [] := by
  simp [Quote.draw, isLinkAttr]

theorem Stat.draw_links (s : Stat) : s.draw.links = [] := by
  simp [Stat.draw, isLinkAttr]

theorem Position.draw_links (p : Position) : p.draw.links = [] := by
  have tech : linksIn (if p.technologies.isEmpty then none
      else inside (classed "p" "timeline-tech" ("Tech: " ++ Text.join ", " p.technologies))) =
      [] := by
    split <;> rfl
  simp only [Position.draw, links_element, List.flatMap_cons, tech]
  simp [isLinkAttr]

theorem Study.draw_links (s : Study) : s.draw.links = [] := by
  simp [Study.draw, isLinkAttr]

/-- The picture of a project card, and what it leads to. -/
def ProjectCard.links (p : ProjectCard) : List String :=
  [p.imageUrl, p.repoUrl, p.demoUrl].flatMap fun url => (Text.filled? url).toList

theorem ProjectCard.draw_links (p : ProjectCard) : p.draw.links = p.links := by
  have unlinked {α : Type} (l : List α) : l.flatMap (fun _ => ([] : List String)) = [] := by simp
  unfold ProjectCard.draw ProjectCard.links
  simp [isLinkAttr, List.flatMap_map, unlinked, -List.map_take]

/-- The image of a custom block, once it is loaded. -/
def Custom.looseLinks (look : Value → ImageStatus) (b : Custom) : List String :=
  match b.setting? "image_url" with
  | some src =>
    match Reader.text src with
    | .ok u => if look src = .loaded then [u] else []
    | .bad _ => []
  | none => []

/-- The links that a page leaves as they were written, whatever its base. -/
def looseLinks (look : Value → ImageStatus) : Element → List String
  | .projectCard e => e.links
  | .custom e => e.looseLinks look
  | _ => []

variable {o o' : Option Node}

/-- An element that is always drawn, and that leaves no link as it was written. -/
theorem some_follow {x x' : Drawing Node} {base : Option String}
    (each : ∀ n m, x.outcome t = .ok n → x'.outcome t = .ok m → n.follow base = .ok m)
    (h : (some <$> x).outcome t = .ok o) (h' : (some <$> x').outcome t = .ok o') :
    FollowIff base (Stay base []) o.toList o'.toList := by
  obtain ⟨n, hn, rfl⟩ := outcome_map_ok.1 h
  obtain ⟨m, hm, rfl⟩ := outcome_map_ok.1 h'
  exact followIff_single (iff_of_true (each n m hn hm) stay_nil)

/-- A drawing in which the base has no part. -/
theorem same_follow {x : Drawing (Option Node)} {links : List String} (base : Option String)
    (h : x.outcome t = .ok o) (h' : x.outcome t = .ok o')
    (hlinks : o.toList.flatMap Node.links = links) :
    FollowIff base (Stay base links) o.toList o'.toList := by
  obtain rfl : o = o' := Except.ok.inj (h.symm.trans h')
  exact hlinks ▸ followIff_self o.toList

section

variable {base : Option String} {draw draw' : α → Drawing Node} {members : List (Placed α)}

theorem drawMembers_follow (steady : ∀ a, (draw a).Steady) (steady' : ∀ a, (draw' a).Steady)
    (each : ∀ a n m, (draw a).outcome t = .ok n → (draw' a).outcome t = .ok m →
      n.follow base = .ok m) {ns ms : List Node}
    (h : (drawMembers draw members).outcome t = .ok ns)
    (h' : (drawMembers draw' members).outcome t = .ok ms) : FollowIff base True ns ms := by
  unfold drawMembers at h h'
  have drawn := (outcome_mapM_ok fun p : Placed α => steady p.content).1 h
  have drawn' := (outcome_mapM_ok fun p : Placed α => steady' p.content).1 h'
  clear h h'
  generalize members.filter (·.visible) = shown at drawn drawn'
  induction drawn generalizing ms with
  | nil =>
    cases drawn'
    exact followIff_nil
  | cons hn _ ih =>
    obtain _ | ⟨hm, drawn'⟩ := drawn'
    have first := each _ _ _ hn hm
    exact ((followIff_single (iff_of_true first trivial)).append (ih drawn')).congr
      (and_iff_left trivial)

theorem group_follow {cls : String} (steady : ∀ a, (draw a).Steady)
    (steady' : ∀ a, (draw' a).Steady)
    (each : ∀ a n m, (draw a).outcome t = .ok n → (draw' a).outcome t = .ok m →
      n.follow base = .ok m)
    (h : (drawMembers draw members >>= fun ns =>
      pure (container "div" [("class", some cls)] ns)).outcome t = .ok o)
    (h' : (drawMembers draw' members >>= fun ns =>
      pure (container "div" [("class", some cls)] ns)).outcome t = .ok o') :
    FollowIff base (Stay base []) o.toList o'.toList := by
  obtain ⟨ns, hns, h⟩ := ((drawMembers_steady steady members).outcome_bind_ok
    fun _ => steady_pure _).1 h
  obtain ⟨ms, hms, h'⟩ := ((drawMembers_steady steady' members).outcome_bind_ok
    fun _ => steady_pure _).1 h'
  cases h
  cases h'
  exact ((drawMembers_follow steady steady' each hns hms).container (by simp [isLinkAttr])).congr
    (iff_of_true trivial stay_nil)

end

/-- The image of a service is drawn alike with any base. -/
theorem card_follow {base : Option String} {u : String} {alt : Value} {type : String}
    (onHost : Url.OnHost u) (h : (Preview.card (.text u) alt type).outcome t = .ok n) :
    n.follow base = .ok n := by
  obtain ⟨u', hu, links⟩ := card_links (by exact nofun) h
  cases hu
  rw [n.follow_self, links]
  split
  · exact stay_onHost onHost
  · exact stay_nil

/-- A custom block has no link but its image, once that is loaded. -/
theorem Custom.draw_links (b : Custom) (h : b.draw.outcome t = .ok o) :
    o.toList.flatMap Node.links = b.looseLinks t.look := by
  unfold Custom.draw at h
  unfold Custom.looseLinks
  cases setting : b.setting? "image_url" with
  | some src =>
    rw [setting] at h
    have there : src ≠ .null := by
      rintro rfl
      obtain ⟨-, filled⟩ := Option.filter_eq_some_iff.1 setting
      cases filled
    obtain ⟨n, hn, rfl⟩ := outcome_map_ok.1 h
    obtain ⟨u, hu, links⟩ := card_links there hn
    dsimp only
    rw [hu]
    exact (List.append_nil _).trans links
  | none =>
    rw [setting] at h
    dsimp only at h
    split at h
    · cases h
      rfl
    · split at h
      · cases h
        simp [isLinkAttr]
      · split at h
        · cases safe : Markup.sanitize b.content with
          | error rejection =>
            rw [safe] at h
            cases h
          | ok s =>
            rw [safe] at h
            cases h
            simp [isLinkAttr]
        · cases h
          simp [isLinkAttr]

theorem draw_follow (e : Element) (bare : c.baseUrl = none) (h : (e.draw c).outcome t = .ok o)
    (h' : (e.draw c').outcome t = .ok o') :
    FollowIff c'.baseUrl (Stay c'.baseUrl (e.looseLinks t.look)) o.toList o'.toList := by
  have drawn {n : Node} {links : List String} (hlinks : n.links = links)
      (h : (pure (some n) : Drawing (Option Node)).outcome t = .ok o)
      (h' : (pure (some n) : Drawing (Option Node)).outcome t = .ok o') :
      FollowIff c'.baseUrl (Stay c'.baseUrl links) o.toList o'.toList := by
    refine same_follow _ h h' ?_
    cases h
    exact (List.append_nil _).trans hlinks
  have service {u : String} {alt : Value} {type : String} (onHost : Url.OnHost u) (n m : Node)
      (hn : (Preview.card (.text u) alt type).outcome t = .ok n)
      (hm : (Preview.card (.text u) alt type).outcome t = .ok m) :
      n.follow c'.baseUrl = .ok m := by
    obtain rfl : n = m := Except.ok.inj (hn.symm.trans hm)
    exact card_follow onHost hn
  cases e with
  | text e =>
    cases h
    exact same_follow _ rfl h' e.draw_links
  | heading e =>
    cases h
    exact same_follow _ rfl h' e.draw_links
  | code e => exact drawn e.draw_links h h'
  | quote e => exact drawn e.draw_links h h'
  | image e => exact some_follow (fun _ _ => e.draw_follow bare) h h'
  | link e => exact some_follow (fun _ _ => e.draw_follow bare) h h'
  | badge e => exact some_follow (fun _ _ => e.draw_follow bare) h h'
  | spacer e => exact drawn rfl h h'
  | rule e => exact drawn rfl h h'
  | stat e => exact drawn e.draw_links h h'
  | social e => exact some_follow (fun _ _ => e.draw_follow bare) h h'
  | typing e =>
    cases h
    cases h'
    exact e.draw_follow
  | statsCard e => exact some_follow (service e.imageUrl_onHost) h h'
  | graph e => exact some_follow (service e.imageUrl_onHost) h h'
  | card e => exact some_follow (fun _ _ => e.draw_follow bare) h h'
  | projectCard e => exact drawn e.draw_links h h'
  | position e => exact drawn e.draw_links h h'
  | study e => exact drawn e.draw_links h h'
  | award e => exact some_follow (fun _ _ => e.draw_follow bare) h h'
  | custom e => exact same_follow _ h h' (e.draw_links h)
  | badgeGroup e =>
    exact group_follow (Badge.draw_steady c) (Badge.draw_steady c')
      (fun b _ _ => b.draw_follow bare) h h'
  | statGroup e =>
    have steady (s : Stat) : (pure s.draw : Drawing Node).Steady := steady_pure s.draw
    refine group_follow steady steady ?_ h h'
    intro s n m hn hm
    cases hn
    cases hm
    exact follow_bare s.draw_links
  | socialGroup e =>
    exact group_follow (Social.draw_steady c) (Social.draw_steady c')
      (fun s _ _ => s.draw_follow bare) h h'

end Element

/-! ## Blocks -/

mutual

/-- The links of a block that a page leaves as they were written. -/
def Block.looseLinks (look : Value → ImageStatus) : Block → List String
  | .element _ visible content => if visible then content.looseLinks look else []
  | .stack _ visible _ children => if visible then Block.allLooseLinks look children else []
  | .list _ visible _ items => if visible then Item.allLooseLinks look items else []

def Block.allLooseLinks (look : Value → ImageStatus) : List Block → List String
  | [] => []
  | b :: bs => b.looseLinks look ++ Block.allLooseLinks look bs

/-- What is nested in an item shows only with the item. -/
def Item.allLooseLinks (look : Value → ImageStatus) : List Item → List String
  | [] => []
  | .text content _ nested :: rest =>
    (if content.isEmpty then [] else Item.allLooseLinks look nested) ++
      Item.allLooseLinks look rest
  | .block content _ nested :: rest =>
    (if content.shows Element.isDrawn then
      content.looseLinks look ++ Item.allLooseLinks look nested else []) ++
      Item.allLooseLinks look rest

end

section

variable {c c' : Context} {t : Tracker}

mutual

theorem Block.drawTree_follow (bare : c.baseUrl = none) : ∀ (b : Block) {o o' : Option Node},
    (b.drawTree c).outcome t = .ok o → (b.drawTree c').outcome t = .ok o' →
      FollowIff c'.baseUrl (Stay c'.baseUrl (b.looseLinks t.look)) o.toList o'.toList
  | .element _ visible content, o, o', h, h' => by
    unfold Block.drawTree at h h'
    unfold Block.looseLinks
    cases visible with
    | true => exact content.draw_follow bare h h'
    | false =>
      cases h
      cases h'
      exact followIff_self []
  | .stack id visible layout children, o, o', h, h' => by
    unfold Block.looseLinks
    cases visible with
    | true =>
      obtain ⟨ns, hns, rfl⟩ := Block.drawTree_stack_ok.1 h
      obtain ⟨ms, hms, rfl⟩ := Block.drawTree_stack_ok.1 h'
      exact (Block.drawAll_follow bare children hns hms).arrange
    | false =>
      unfold Block.drawTree at h h'
      cases h
      cases h'
      exact followIff_self []
  | .list id visible marker items, o, o', h, h' => by
    unfold Block.looseLinks
    cases visible with
    | true =>
      obtain ⟨ns, hns, rfl⟩ := Block.drawTree_list_ok.1 h
      obtain ⟨ms, hms, rfl⟩ := Block.drawTree_list_ok.1 h'
      exact (Item.drawAll_follow bare marker items hns hms).listOf
    | false =>
      unfold Block.drawTree at h h'
      cases h
      cases h'
      exact followIff_self []

theorem Block.drawAll_follow (bare : c.baseUrl = none) : ∀ (bs : List Block) {ns ms : List Node},
    (Block.drawAll c bs).outcome t = .ok ns → (Block.drawAll c' bs).outcome t = .ok ms →
      FollowIff c'.baseUrl (Stay c'.baseUrl (Block.allLooseLinks t.look bs)) ns ms
  | [], ns, ms, h, h' => by
    cases h
    cases h'
    exact followIff_self []
  | b :: bs, ns, ms, h, h' => by
    obtain ⟨o, more, ho, hmore, rfl⟩ := Block.drawAll_cons_ok.1 h
    obtain ⟨o', more', ho', hmore', rfl⟩ := Block.drawAll_cons_ok.1 h'
    have first := Block.drawTree_follow bare b ho ho'
    have others := Block.drawAll_follow bare bs hmore hmore'
    exact (first.append others).congr stay_append.symm

theorem Item.drawAll_follow (bare : c.baseUrl = none) (marker : ListMarker) :
    ∀ (items : List Item) {ns ms : List Node}, (Item.drawAll c marker items).outcome t = .ok ns →
      (Item.drawAll c' marker items).outcome t = .ok ms →
      FollowIff c'.baseUrl (Stay c'.baseUrl (Item.allLooseLinks t.look items)) ns ms
  | [], ns, ms, h, h' => by
    cases h
    cases h'
    exact followIff_self []
  | .text content icon nested :: rest, ns, ms, h, h' => by
    obtain ⟨below, more, hbelow, hmore, rfl⟩ := Item.drawAll_text_ok.1 h
    obtain ⟨below', more', hbelow', hmore', rfl⟩ := Item.drawAll_text_ok.1 h'
    have inner := Item.drawAll_follow bare marker nested hbelow hbelow'
    have others := Item.drawAll_follow bare marker rest hmore hmore'
    unfold Item.allLooseLinks
    cases content.isEmpty with
    | true => exact others
    | false =>
      have words : (Child.text (Inline.html content)).follow c'.baseUrl =
          .ok (.text (Inline.html content)) ↔ True := iff_of_true rfl trivial
      refine ((inner.listOf.entry words).append others).congr ?_
      exact (and_congr_left' (and_iff_right trivial)).trans stay_append.symm
  | .block content icon nested :: rest, ns, ms, h, h' => by
    obtain ⟨below, o, more, hbelow, ho, hmore, rfl⟩ := Item.drawAll_block_ok.1 h
    obtain ⟨below', o', more', hbelow', ho', hmore', rfl⟩ := Item.drawAll_block_ok.1 h'
    have inner := Item.drawAll_follow bare marker nested hbelow hbelow'
    have first := Block.drawTree_follow bare content ho ho'
    have others := Item.drawAll_follow bare marker rest hmore hmore'
    have shown := (Block.drawTree_isSome c content).of_run (outcome_ok.1 ho).choose_spec
    unfold Item.allLooseLinks
    rw [← shown]
    cases o with
    | none =>
      obtain rfl : o' = none := by
        cases o' with
        | none => rfl
        | some m => cases first.length
      exact others
    | some n =>
      obtain ⟨m, rfl⟩ : ∃ m, o' = some m := by
        cases o' with
        | none => cases first.length
        | some m => exact ⟨m, rfl⟩
      have node : (Child.node n).follow c'.baseUrl = .ok (.node m) ↔
          Stay c'.baseUrl (content.looseLinks t.look) :=
        (map_ok_iff fun _ _ => Child.node.inj).trans first.single
      refine ((inner.listOf.entry node).append others).congr ?_
      rw [← stay_append, ← stay_append]
      rfl

end

theorem Block.draw_followIff (bare : c.baseUrl = none) (b : Block) {o o' : Option Node}
    (same : c'.asMarkdown = c.asMarkdown)
    (h : (b.draw c).outcome t = .ok o) (h' : (b.draw c').outcome t = .ok o') :
    FollowIff c'.baseUrl (c.asMarkdown = true ∨ Stay c'.baseUrl (b.looseLinks t.look))
      o.toList o'.toList := by
  unfold Block.draw at h h'
  rw [same] at h'
  cases markdown : c.asMarkdown with
  | false =>
    rw [markdown] at h h'
    exact (b.drawTree_follow bare h h').congr (by simp)
  | true =>
    rw [markdown] at h h'
    cases h
    cases h'
    refine (followIff_self _).congr (iff_of_true ?_ (.inl rfl))
    split <;> exact nofun

/-- With a base, a block is drawn as without one but with all its links followed from the base,
exactly if the links that it leaves as they were written are followed to themselves. The images of
cards are seen alike before both drawings. -/
theorem Block.draw_based_iff (b : Block) (c : Context) (base : Option String) {t t' : Tracker}
    (seen : t'.look = t.look) {o o' : Option Node}
    (h : (b.draw { c with baseUrl := none }).outcome t = .ok o)
    (h' : (b.draw { c with baseUrl := base }).outcome t' = .ok o') :
    o.mapM (Node.follow base) = .ok o' ↔
      c.asMarkdown = true ∨ ∀ u ∈ b.looseLinks t.look, Url.resolve u base = .ok u := by
  rw [(b.draw_steady _).sees t' t seen] at h'
  have drawn := b.draw_followIff (by rfl) (by rfl) h h'
  refine Iff.trans ?_ drawn.iff
  cases o with
  | none =>
    cases o' with
    | none => exact iff_of_true rfl rfl
    | some m => cases drawn.length
  | some n =>
    cases o' with
    | none => cases drawn.length
    | some m =>
      show some <$> n.follow base = .ok (some m) ↔ [n].mapM (Node.follow base) = .ok [m]
      rw [map_ok_iff fun _ _ => Option.some.inj, mapM_cons_ok]
      exact (and_iff_left rfl).symm

end

/-- An image of the same site over a project card that leads to another one. -/
def twoSites : Block :=
  .stack "c" true (.column none)
    [.element "i" true (.image { src := "a.png", alt := "A" }),
      .element "p" true (.projectCard { name := "Tool", repoUrl := some "https://code.dev/tool" })]

theorem twoSites_followed : ∃ o o' : Option Node,
    (twoSites.draw { baseUrl := none }).outcome {} = .ok o ∧
      (twoSites.draw { baseUrl := some "https://example.com/" }).outcome {} = .ok o' ∧
      o.mapM (Node.follow (some "https://example.com/")) = .ok o' := by
  have drawn : (twoSites.draw { baseUrl := none }).outcome {} = .ok _ := rfl
  have based : (twoSites.draw { baseUrl := some "https://example.com/" }).outcome {} = .ok _ := rfl
  have loose : twoSites.looseLinks (Tracker.look {}) = ["https://code.dev/tool"] := rfl
  refine ⟨_, _, drawn, based, (twoSites.draw_based_iff {} _ rfl drawn based).2 (.inr ?_)⟩
  intro u hu
  rw [loose, List.mem_singleton] at hu
  rw [hu]
  rfl

/-- A project card with its repository on the same site. -/
def ownSite : Block :=
  .element "p" true (.projectCard { name := "Tool", repoUrl := some "tool/" })

/-- The card leads to the same address with a base as without one. -/
theorem ownSite_unfollowed : ∃ (n : Node) (t' t'' : Tracker),
    (ownSite.draw {}).run {} = (.ok (some n), t') ∧
      (ownSite.draw { baseUrl := some "https://example.com/" }).run {} = (.ok (some n), t'') ∧
      n.follow (some "https://example.com/") ≠ .ok n := by
  refine ⟨_, _, _, rfl, rfl, fun same => ?_⟩
  have stays := (Node.follow_self _).1 same "tool/" (by decide +kernel)
  have follows : (Url.resolve "tool/" (some "https://example.com/")).toOption =
      some "https://example.com/tool/" := by decide +kernel
  rw [stays] at follows
  exact absurd follows (by decide)

end ProfileReadme
