/-
What becomes of a page when its images load. Drawn before that, every card is a skeleton; drawn
again after all pending images have been reported as loaded, the page is the same but for the
skeletons, in the place of which there are now the images that they stood for. The first drawing
tracks the source of every card that it draws, so that the second one finds all of them loaded,
however often a source comes and whatever the cards call it.
-/
import ProfileReadme.CommandLine.Commands
import ProfileReadme.Proofs.Preview.Tracking

namespace ProfileReadme

open Preview Preview.Drawing

namespace Preview

/-! ## Skeletons -/

/-- The image of a card as a page shows it. -/
structure Picture where
  src : String
  alt : String
  card : String

/-- The class of a skeleton, up to the type of its card. -/
def skeletonClass : String := "stat-card-skeleton stat-"

namespace Picture

/-- The picture, once it is loaded. -/
def image (p : Picture) : Node :=
  .mk "img" [("src", p.src), ("alt", p.alt), ("loading", "lazy"),
    ("class", "stat-card stat-" ++ p.card)] [] false

/-- What stands in its place before that. -/
def skeleton (p : Picture) : Node :=
  .mk "div" [("class", skeletonClass ++ p.card), ("role", "img"), ("aria-label", p.alt),
    ("aria-busy", "true"), ("data-status", "loading"), ("data-src", p.src)] [] false

end Picture

/-- The picture in the place of which an element stands, if it is a skeleton. -/
def skeletonOf? (attrs : List (String × String)) : Option Picture := do
  let src ← attrs.lookup "data-src"
  let alt ← attrs.lookup "aria-label"
  let card ← Text.after? skeletonClass.toList (← attrs.lookup "class").toList
  return { src, alt, card := String.ofList card }

/-- The picture that an element waits for. -/
def awaited? (attrs : List (String × String)) : Option Picture :=
  if attrs.lookup "data-status" = some "loading" then skeletonOf? attrs else none

mutual

/-- The tree with the picture itself in the place of every skeleton that waits for one. -/
def Node.loaded : Node → Node
  | .mk tag attrs children raw =>
    match awaited? attrs with
    | some p => p.image
    | none => .mk tag attrs (Child.loadedAll children) raw

def Child.loaded : Child → Child
  | .text s => .text s
  | .node n => .node n.loaded

def Child.loadedAll : List Child → List Child
  | [] => []
  | c :: rest => c.loaded :: Child.loadedAll rest

end

/-- No element of the tree is a skeleton. -/
def Node.IsBare (n : Node) : Prop := ∀ m ∈ n.walk, skeletonOf? m.attrs = none

theorem awaited?_eq_none {attrs : List (String × String)} (h : skeletonOf? attrs = none) :
    awaited? attrs = none := by
  unfold awaited?
  rw [h, ite_self]

theorem after?_append (lead cs : List Char) : Text.after? lead (lead ++ cs) = some cs := by
  unfold Text.after?
  rw [if_pos (List.isPrefixOf_iff_prefix.2 (List.prefix_append ..)), List.drop_left]

theorem Picture.skeleton_loaded (p : Picture) : p.skeleton.loaded = p.image := by
  have shown : skeletonOf? p.skeleton.attrs = some p := by
    have cls : (skeletonClass ++ p.card).toList = skeletonClass.toList ++ p.card.toList :=
      String.toList_append
    show (Text.after? _ (skeletonClass ++ p.card).toList).bind _ = _
    rw [cls, after?_append]
    show some (Picture.mk p.src p.alt (String.ofList p.card.toList)) = _
    rw [String.ofList_toList]
  have waits : awaited? p.skeleton.attrs = some p := shown
  unfold Picture.skeleton Node.loaded
  rw [show awaited? [_, _, _, _, _, _] = some p from waits]

theorem Picture.image_isBare (p : Picture) : p.image.IsBare := by
  intro m hm
  obtain rfl := List.mem_singleton.1 hm
  rfl

/-- A skeleton holds the source of its card. -/
theorem skeletonOf?_eq_none {attrs : List (String × String)} (h : cardSource? attrs = none) :
    skeletonOf? attrs = none := by
  by_contra shown
  obtain ⟨p, hp⟩ := Option.ne_none_iff_exists'.1 shown
  unfold skeletonOf? at hp
  obtain ⟨src, hsrc, hp⟩ := Option.bind_eq_some_iff.1 hp
  obtain ⟨alt, -, hp⟩ := Option.bind_eq_some_iff.1 hp
  obtain ⟨cls, hcls, hp⟩ := Option.bind_eq_some_iff.1 hp
  obtain ⟨card, hcard, -⟩ := Option.bind_eq_some_iff.1 hp
  have front : isCardClass cls = true := by
    unfold Text.after? at hcard
    obtain ⟨front, -⟩ := Option.ite_none_right_eq_some.1 hcard
    exact List.any_eq_true.2 ⟨skeletonClass, by simp [skeletonClass], front⟩
  unfold cardSource? at h
  rw [hcls] at h
  dsimp only at h
  rw [if_pos front, hsrc] at h
  cases hsrc' : attrs.lookup "src" with
  | none => rw [hsrc'] at h; cases h
  | some s => rw [hsrc'] at h; cases h

theorem isBare_of_cards {n : Node} (h : n.cards = []) : n.IsBare := fun m hm =>
  skeletonOf?_eq_none (List.filterMap_eq_nil_iff.1 h m hm)

mutual

/-- A tree without skeletons stays as it is. -/
theorem Node.loaded_self : ∀ n : Node, n.IsBare → n.loaded = n
  | .mk tag attrs children raw, h => by
    unfold Node.IsBare Node.walk at h
    obtain ⟨here, below⟩ := List.forall_mem_cons.1 h
    unfold Node.loaded
    rw [awaited?_eq_none (by exact here)]
    exact congrArg (Node.mk tag attrs · raw) (Child.loadedAll_self children below)

theorem Child.loadedAll_self : ∀ cs : List Child,
    (∀ m ∈ Child.walkAll cs, skeletonOf? m.attrs = none) → Child.loadedAll cs = cs
  | [], _ => rfl
  | .text s :: rest, h => congrArg (Child.text s :: ·) (Child.loadedAll_self rest h)
  | .node n :: rest, h => by
    unfold Child.walkAll at h
    obtain ⟨first, others⟩ := List.forall_mem_append.1 h
    exact congrArg₂ (Child.node · :: ·) (n.loaded_self first) (Child.loadedAll_self rest others)

end

theorem Child.loadedAll_eq : ∀ cs : List Child, Child.loadedAll cs = cs.map Child.loaded
  | [] => rfl
  | c :: cs => by rw [Child.loadedAll, Child.loadedAll_eq cs, List.map_cons]

/-! ## Nodes and parts that have loaded -/

/-- Nodes and what becomes of them; no skeleton is left. -/
structure Loaded (ns ms : List Node) : Prop where
  same : ms = ns.map Node.loaded
  bare : ∀ m ∈ ms, m.IsBare

/-- The same of the parts of an element. -/
structure PartsLoaded (parts parts' : List (Option Child)) : Prop where
  same : parts' = parts.map (Option.map Child.loaded)
  bare : ∀ m, inside m ∈ parts' → m.IsBare

section

variable {ns ms ns' ms' : List Node} {n m : Node} {parts parts' : List (Option Child)}

theorem Loaded.append (h : Loaded ns ms) (h' : Loaded ns' ms') :
    Loaded (ns ++ ns') (ms ++ ms') where
  same := by rw [h.same, h'.same, List.map_append]
  bare := List.forall_mem_append.2 ⟨h.bare, h'.bare⟩

theorem loaded_nil : Loaded [] [] := ⟨rfl, nofun⟩

theorem loaded_single (bare : n.loaded.IsBare) : Loaded [n] [n.loaded] :=
  ⟨rfl, List.forall_mem_singleton.2 bare⟩

theorem loaded_bare (h : ∀ n ∈ ns, n.IsBare) : Loaded ns ns where
  same := by
    rw [List.map_congr_left fun n hn => n.loaded_self (h n hn), List.map_id']
  bare := h

theorem loaded_cardless {node : Option Node} (h : drawnCards node = []) :
    Loaded node.toList node.toList := by
  cases node with
  | none => exact loaded_nil
  | some n => exact loaded_bare (List.forall_mem_singleton.2 (isBare_of_cards h))

theorem PartsLoaded.cons (h : PartsLoaded parts parts') {part part' : Option Child}
    (same : part' = part.map Child.loaded) (bare : ∀ m, part' = inside m → m.IsBare) :
    PartsLoaded (part :: parts) (part' :: parts') where
  same := by rw [h.same, same, List.map_cons]
  bare m hm := by
    rcases List.mem_cons.1 hm with here | later
    · exact bare m here.symm
    · exact h.bare m later

theorem partsLoaded_nil : PartsLoaded [] [] := ⟨rfl, nofun⟩

theorem PartsLoaded.words (h : PartsLoaded parts parts') (s : String) :
    PartsLoaded (words s :: parts) (words s :: parts') := h.cons rfl nofun

/-- A part that is there if its text is not empty, and that is no card. -/
theorem PartsLoaded.part? (h : PartsLoaded parts parts') (s : Option String)
    {draw : String → Node} (cardless : ∀ s, (draw s).cards = []) :
    PartsLoaded (part? s draw :: parts) (part? s draw :: parts') := by
  unfold Preview.part?
  cases Text.filled? s with
  | none => exact h.cons rfl nofun
  | some s =>
    have bare := isBare_of_cards (cardless s)
    refine h.cons (congrArg (some <| Child.node ·) ((draw s).loaded_self bare).symm) ?_
    rintro m ⟨⟩
    exact bare

/-- Nodes, as the last parts of an element. -/
theorem Loaded.asParts (h : Loaded ns ms) : PartsLoaded (ns.map inside) (ms.map inside) where
  same := by
    rw [h.same, List.map_map, List.map_map]
    rfl
  bare m hm := by
    obtain ⟨m', hm', ⟨⟩⟩ := List.mem_map.1 hm
    exact h.bare m hm'

theorem mem_walkAll_parts {k : Node} : ∀ parts : List (Option Child),
    k ∈ Child.walkAll (parts.filterMap id) → ∃ m, inside m ∈ parts ∧ k ∈ m.walk
  | none :: parts, h => by
    obtain ⟨m, hm, hk⟩ := mem_walkAll_parts parts h
    exact ⟨m, List.mem_cons_of_mem _ hm, hk⟩
  | some (.text s) :: parts, h => by
    obtain ⟨m, hm, hk⟩ := mem_walkAll_parts parts h
    exact ⟨m, List.mem_cons_of_mem _ hm, hk⟩
  | some (.node n) :: parts, h => by
    rcases List.mem_append.1 h with here | later
    · exact ⟨n, List.mem_cons_self .., here⟩
    · obtain ⟨m, hm, hk⟩ := mem_walkAll_parts parts later
      exact ⟨m, List.mem_cons_of_mem _ hm, hk⟩

/-- An element that is no card, with parts that have loaded. -/
theorem PartsLoaded.element (h : PartsLoaded parts parts')
    {attrs : List (String × Option String)} (bare : attrs.any (isSourceAttr ·.1) = false)
    (tag : String) (raw : Bool) :
    Loaded [element tag attrs parts raw] [element tag attrs parts' raw] := by
  have here : skeletonOf? (Preview.element tag attrs parts raw).attrs = none := by
    refine skeletonOf?_eq_none (cardSource?_bare fun (k, s) hk => ?_)
    simpa using List.any_eq_false.1 bare _ (mem_attrs_element hk)
  refine ⟨?_, List.forall_mem_singleton.2 fun k hk => ?_⟩
  · have children : Child.loadedAll (parts.filterMap id) = parts'.filterMap id := by
      rw [Child.loadedAll_eq, h.same, List.filterMap_map, List.map_filterMap]
      rfl
    unfold Preview.element at here ⊢
    rw [List.map_singleton, Node.loaded, awaited?_eq_none (by exact here), children]
  · unfold Preview.element Node.walk at hk
    rcases List.mem_cons.1 hk with rfl | below
    · exact here
    · obtain ⟨m, hm, hk⟩ := mem_walkAll_parts _ below
      exact h.bare m hm k hk

theorem Loaded.container (h : Loaded ns ms) {attrs : List (String × Option String)}
    (bare : attrs.any (isSourceAttr ·.1) = false) (tag : String) :
    Loaded (container tag attrs ns).toList (container tag attrs ms).toList := by
  unfold Preview.container
  rw [h.same, List.isEmpty_map, ← h.same]
  split
  · exact loaded_nil
  · exact h.asParts.element bare tag false

theorem Loaded.arrange (h : Loaded ns ms) (layout : Layout) :
    Loaded (arrange layout ns).toList (arrange layout ms).toList := by
  cases layout <;> exact h.container (by simp [isSourceAttr]) _

theorem Loaded.listOf (h : Loaded ns ms) (marker : ListMarker) :
    Loaded (listOf marker ns).toList (listOf marker ms).toList := by
  cases marker <;> exact h.container (by simp [isSourceAttr]) _

/-- One node at most, as a part. -/
theorem Loaded.part {node node' : Option Node} (h : Loaded node.toList node'.toList) :
    PartsLoaded [node.map .node] [node'.map .node] := by
  cases node with
  | none =>
    obtain rfl : node' = none := Option.toList_eq_nil_iff.1 h.same
    exact partsLoaded_nil.cons rfl nofun
  | some n =>
    obtain rfl : node' = some n.loaded := Option.toList_eq_singleton_iff.1 h.same
    refine partsLoaded_nil.cons rfl ?_
    rintro m ⟨⟩
    exact h.bare _ (List.mem_singleton_self _)

/-- An item of a list, with a text. -/
theorem Loaded.entry {below below' : Option Node} (h : Loaded below.toList below'.toList)
    (icon : Option String) (s : String) :
    Loaded [entry icon (.text s) below true] [entry icon (.text s) below' true] :=
  ((h.part.words s).part? icon fun s => cards_classed "span" "list-icon" s).element rfl "li" true

/-- An item of a list, with a block. -/
theorem Loaded.entryOf {below below' : Option Node} (h : Loaded below.toList below'.toList)
    (hn : Loaded [n] [m]) (icon : Option String) :
    Loaded [Preview.entry icon (.node n) below false]
      [Preview.entry icon (.node m) below' false] := by
  have content : PartsLoaded [inside n, below.map .node] [inside m, below'.map .node] := by
    refine h.part.cons (congrArg inside (List.singleton_inj.1 hn.same)) ?_
    rintro m ⟨⟩
    exact hn.bare _ (List.mem_singleton_self _)
  exact (content.part? icon fun s => cards_classed "span" "list-icon" s).element rfl "li" false

end

/-! ## Cards -/

theorem Written.next {k s : String} {v : Value} {attrs : List (String × Value)}
    {as : List (String × String)} (h : Written ((k, v) :: attrs) as) (there : v ≠ .null)
    (text : Reader.text v = .ok s) (stays : attrName k = k) :
    ∃ more, as = (k, s) :: more ∧ Written attrs more := by
  obtain ⟨absent, -⟩ | ⟨s', more, text', rfl, hmore⟩ := h.first
  · exact absurd absent there
  · obtain rfl : s = s' := Checked.ok.inj (text.symm.trans text')
    rw [stays]
    exact ⟨more, rfl, hmore⟩

section

variable {src alt : Value} {card u a : String} {n : Node}

theorem cardNode_loaded (there : src ≠ .null) (there' : alt ≠ .null)
    (hu : Reader.text src = .ok u) (ha : Reader.text alt = .ok a)
    (h : cardNode .loaded src alt card = .ok n) : n = Picture.image ⟨u, a, card⟩ := by
  have distinct : (["src", "alt", "loading", "class"].map attrName).Nodup := by decide
  obtain ⟨as, rfl, has⟩ := elementOf_eq_ok (by exact distinct) h
  obtain ⟨_, rfl, has₁⟩ := has.next there hu (by decide)
  obtain ⟨_, rfl, has₂⟩ := has₁.next there' ha (by decide)
  obtain ⟨_, rfl, has₃⟩ := has₂.next nofun rfl (by decide)
  obtain ⟨_, rfl, ⟨⟩⟩ := has₃.next nofun rfl (by decide)
  rfl

theorem cardNode_loading (there : src ≠ .null) (there' : alt ≠ .null)
    (hu : Reader.text src = .ok u) (ha : Reader.text alt = .ok a)
    (h : cardNode .loading src alt card = .ok n) : n = Picture.skeleton ⟨u, a, card⟩ := by
  have distinct : (["class", "role", "aria-label", "aria-busy", "data-status",
    "data-src"].map attrName).Nodup := by decide
  obtain ⟨as, rfl, has⟩ := elementOf_eq_ok (by exact distinct) h
  obtain ⟨_, rfl, has₁⟩ := has.next nofun rfl (by decide)
  obtain ⟨_, rfl, has₂⟩ := has₁.next nofun rfl (by decide)
  obtain ⟨_, rfl, has₃⟩ := has₂.next there' ha (by decide)
  obtain ⟨_, rfl, has₄⟩ := has₃.next nofun rfl (by decide)
  obtain ⟨_, rfl, has₅⟩ := has₄.next nofun rfl (by decide)
  obtain ⟨_, rfl, ⟨⟩⟩ := has₅.next there hu (by decide)
  rfl

end

/-- Sources that are loading in the one tracker, and loaded in the other. -/
def Turn (t s : Tracker) (sources : List Value) : Prop :=
  ∀ v ∈ sources, t.look v = .loading ∧ s.look v = .loaded

section

variable {t s : Tracker} {vs ws : List Value}

theorem turn_append : Turn t s (vs ++ ws) ↔ Turn t s vs ∧ Turn t s ws := List.forall_mem_append

theorem card_loads {src alt : Value} {card : String} {n : Node} (there : src ≠ .null)
    (there' : alt ≠ .null) (turn : Turn t s [src])
    (h : (Preview.card src alt card).outcome t = .ok n) :
    (Preview.card src alt card).outcome s = .ok n.loaded ∧ n.loaded.IsBare := by
  obtain ⟨loading, loaded⟩ := turn src (List.mem_singleton_self _)
  obtain ⟨t', hrun⟩ := outcome_ok.1 h
  -- whether a card is drawn does not depend on what is tracked
  have texts := (card_returnsIff {} src alt card t).1 ⟨n, t', hrun⟩
  obtain ⟨u, hu⟩ := texts src (by simp) there
  obtain ⟨a, ha⟩ := texts alt (by simp) there'
  obtain ⟨m, s', hrun'⟩ := (card_returnsIff {} src alt card s).2 texts
  have h' : (Preview.card src alt card).outcome s = .ok m := outcome_ok.2 ⟨s', hrun'⟩
  have first := card_eq_ok h
  have second := card_eq_ok h'
  rw [loading] at first
  rw [loaded] at second
  obtain rfl := cardNode_loading there there' hu ha first
  obtain rfl := cardNode_loaded there there' hu ha second
  rw [Picture.skeleton_loaded]
  exact ⟨h', Picture.image_isBare _⟩

end

/-! ## Drawings without images -/

namespace Drawing

/-- A drawing that has nothing to do with what is tracked. -/
def Imageless (x : Drawing α) : Prop := ∃ r, ∀ t, x.run t = (r, t)

variable {x : Drawing α}

theorem imageless_pure (a : α) : (pure a : Drawing α).Imageless := ⟨.ok a, fun _ => rfl⟩

theorem imageless_ofExcept (fault : ε → Fault) (r : Except ε α) :
    (ofExcept fault r).Imageless := by
  cases r with
  | ok a => exact imageless_pure a
  | error e => exact ⟨.error (fault e), fun _ => rfl⟩

theorem Imageless.bind {f : α → Drawing β} (hx : x.Imageless) (hf : ∀ a, (f a).Imageless) :
    (x >>= f).Imageless := by
  obtain ⟨r, hr⟩ := hx
  cases r with
  | error fault => exact ⟨.error fault, fun t => by rw [run_bind, hr]⟩
  | ok a =>
    obtain ⟨r', hr'⟩ := hf a
    refine ⟨r', fun t => ?_⟩
    rw [run_bind, hr]
    exact hr' t

theorem Imageless.map (f : α → β) (hx : x.Imageless) : (f <$> x).Imageless :=
  hx.bind fun a => imageless_pure (f a)

theorem imageless_mapM {f : γ → Drawing α} (h : ∀ c, (f c).Imageless) :
    ∀ l : List γ, (l.mapM f).Imageless
  | [] => imageless_pure []
  | c :: l => by
    rw [List.mapM_cons]
    exact (h c).bind fun a => (imageless_mapM h l).bind fun as => imageless_pure (a :: as)

theorem Imageless.outcome_eq (h : x.Imageless) (t s : Tracker) : x.outcome t = x.outcome s := by
  obtain ⟨r, hr⟩ := h
  unfold outcome
  rw [hr t, hr s]

end Drawing

theorem resolve_imageless (c : Context) (url : String) : (c.resolve url).Imageless :=
  imageless_ofExcept .url _

end Preview

/-! ## Elements -/

namespace Element

variable (c : Preview.Context)

theorem Image.draw_imageless (i : Image) : (i.draw c).Imageless := by
  unfold Image.draw
  refine (resolve_imageless c i.src).bind fun src => ?_
  dsimp only
  split
  · exact (resolve_imageless c _).bind fun _ => imageless_pure _
  · exact imageless_pure _

theorem Badge.draw_imageless (b : Badge) : (b.draw c).Imageless := by
  unfold Badge.draw
  dsimp only
  split
  · exact (resolve_imageless c _).bind fun _ => imageless_pure _
  · exact imageless_pure _

theorem Social.draw_imageless (s : Social) : (s.draw c).Imageless :=
  (resolve_imageless c s.url).bind fun _ => imageless_pure _

theorem Card.draw_imageless (k : Card) : (k.draw c).Imageless := by
  unfold Card.draw optionalLink
  refine Imageless.bind ?_ fun link => imageless_pure _
  split
  · exact (resolve_imageless c _).bind fun _ => imageless_pure _
  · exact imageless_pure none

theorem Award.draw_imageless (a : Award) : (a.draw c).Imageless := by
  unfold Award.draw
  dsimp only
  split
  · exact (resolve_imageless c _).bind fun _ => imageless_pure _
  · exact imageless_pure _

theorem Custom.draw_imageless {b : Custom} (none : b.setting? "image_url" = none) :
    b.draw.Imageless := by
  unfold Custom.draw
  rw [none]
  dsimp only
  split
  · exact imageless_pure _
  split
  · exact imageless_pure _
  split
  · exact (imageless_ofExcept _ _).bind fun _ => imageless_pure _
  · exact imageless_pure _

theorem drawMembers_imageless {draw : α → Drawing Node} (h : ∀ a, (draw a).Imageless)
    (members : List (Placed α)) : (drawMembers draw members).Imageless :=
  imageless_mapM (fun p : Placed α => h p.content) _

/-- Only cards have to do with images. -/
theorem draw_imageless {e : Element} (cardless : e.cards = []) : (e.draw c).Imageless := by
  cases e with
  | image e => exact (e.draw_imageless c).map some
  | link e => exact ((resolve_imageless c _).bind fun _ => imageless_pure _).map some
  | badge e => exact (e.draw_imageless c).map some
  | social e => exact (e.draw_imageless c).map some
  | card e => exact (e.draw_imageless c).map some
  | award e => exact (e.draw_imageless c).map some
  | statsCard e | graph e => cases cardless
  | custom e => exact Custom.draw_imageless (Option.toList_eq_nil_iff.1 cardless)
  | badgeGroup e =>
    exact (drawMembers_imageless (Badge.draw_imageless c) e.members).bind fun _ =>
      imageless_pure _
  | statGroup e =>
    exact (drawMembers_imageless (fun s => imageless_pure s.draw) e.members).bind fun _ =>
      imageless_pure _
  | socialGroup e =>
    exact (drawMembers_imageless (Social.draw_imageless c) e.members).bind fun _ =>
      imageless_pure _
  | _ => exact imageless_pure _

variable {c : Preview.Context} {t s : Tracker} {o : Option Node}

theorem cards_load {src alt : Value} {type : String} (there : src ≠ .null) (there' : alt ≠ .null)
    (turn : Turn t s [src]) (h : (some <$> Preview.card src alt type).outcome t = .ok o) :
    ∃ o', (some <$> Preview.card src alt type).outcome s = .ok o' ∧
      Loaded o.toList o'.toList := by
  obtain ⟨n, hn, rfl⟩ := outcome_map_ok.1 h
  obtain ⟨again, bare⟩ := card_loads there there' turn hn
  exact ⟨some n.loaded, outcome_map_ok.2 ⟨_, again, rfl⟩, loaded_single bare⟩

theorem draw_loads {e : Element} (turn : Turn t s e.cards) (h : (e.draw c).outcome t = .ok o) :
    ∃ o', (e.draw c).outcome s = .ok o' ∧ Loaded o.toList o'.toList := by
  by_cases cardless : e.cards = []
  · rw [(draw_imageless c cardless).outcome_eq t s] at h
    obtain ⟨s', hrun⟩ := outcome_ok.1 h
    have cards := (draw_cards c e).of_run hrun
    rw [cardless] at cards
    exact ⟨o, h, loaded_cardless (List.forall₂_nil_left_iff.1 cards)⟩
  cases e with
  | statsCard e | graph e => exact cards_load nofun nofun turn h
  | custom e =>
    obtain ⟨src, found⟩ := Option.ne_none_iff_exists'.1 (mt Option.toList_eq_nil_iff.2 cardless)
    have turn : Turn t s (e.setting? "image_url").toList := turn
    have alt : ((e.setting? "alt").getD (.text e.customType)) ≠ .null := by
      cases given : e.setting? "alt" with
      | none => exact nofun
      | some v => exact Custom.setting_ne_null given
    show ∃ o', e.draw.outcome s = .ok o' ∧ _
    have h : e.draw.outcome t = .ok o := h
    unfold Custom.draw at h ⊢
    rw [found] at turn h ⊢
    exact cards_load (Custom.setting_ne_null found) alt turn h
  | _ => exact absurd rfl cardless

end Element

/-! ## Blocks -/

section

variable {c : Preview.Context} {t s : Tracker} {o : Option Node} {ns ms : List Node}

mutual

/-- What a block is drawn as while its images load, and what it is drawn as then. -/
theorem Block.drawTree_loads : ∀ (b : Block) {o : Option Node}, Turn t s b.cardsDrawn →
    (b.drawTree c).outcome t = .ok o →
      ∃ o', (b.drawTree c).outcome s = .ok o' ∧ Loaded o.toList o'.toList
  | .element _ visible content, o, turn, h => by
    unfold Block.drawTree at h ⊢
    unfold Block.cardsDrawn at turn
    cases visible with
    | true => exact Element.draw_loads turn h
    | false =>
      cases h
      exact ⟨none, rfl, loaded_nil⟩
  | .stack id visible layout children, o, turn, h => by
    unfold Block.cardsDrawn at turn
    cases visible with
    | true =>
      obtain ⟨ns, hns, rfl⟩ := Block.drawTree_stack_ok.1 h
      obtain ⟨ms, hms, loaded⟩ := Block.drawAll_loads children turn hns
      exact ⟨_, Block.drawTree_stack_ok.2 ⟨ms, hms, rfl⟩, loaded.arrange layout⟩
    | false =>
      unfold Block.drawTree at h ⊢
      cases h
      exact ⟨none, rfl, loaded_nil⟩
  | .list id visible marker items, o, turn, h => by
    unfold Block.cardsDrawn at turn
    cases visible with
    | true =>
      obtain ⟨ns, hns, rfl⟩ := Block.drawTree_list_ok.1 h
      obtain ⟨ms, hms, loaded⟩ := Item.drawAll_loads marker items turn hns
      exact ⟨_, Block.drawTree_list_ok.2 ⟨ms, hms, rfl⟩, loaded.listOf marker⟩
    | false =>
      unfold Block.drawTree at h ⊢
      cases h
      exact ⟨none, rfl, loaded_nil⟩

theorem Block.drawAll_loads : ∀ (bs : List Block) {ns : List Node},
    Turn t s (Block.cardsDrawnAll bs) → (Block.drawAll c bs).outcome t = .ok ns →
      ∃ ms, (Block.drawAll c bs).outcome s = .ok ms ∧ Loaded ns ms
  | [], ns, _, h => by
    cases h
    exact ⟨[], rfl, loaded_nil⟩
  | b :: bs, ns, turn, h => by
    unfold Block.cardsDrawnAll at turn
    obtain ⟨turn, turn'⟩ := turn_append.1 turn
    obtain ⟨o, more, ho, hmore, rfl⟩ := Block.drawAll_cons_ok.1 h
    obtain ⟨o', ho', first⟩ := Block.drawTree_loads b turn ho
    obtain ⟨more', hmore', others⟩ := Block.drawAll_loads bs turn' hmore
    exact ⟨_, Block.drawAll_cons_ok.2 ⟨o', more', ho', hmore', rfl⟩, first.append others⟩

theorem Item.drawAll_loads (marker : ListMarker) : ∀ (items : List Item) {ns : List Node},
    Turn t s (Item.cardsDrawnAll items) → (Item.drawAll c marker items).outcome t = .ok ns →
      ∃ ms, (Item.drawAll c marker items).outcome s = .ok ms ∧ Loaded ns ms
  | [], ns, _, h => by
    cases h
    exact ⟨[], rfl, loaded_nil⟩
  | .text content icon nested :: rest, ns, turn, h => by
    unfold Item.cardsDrawnAll at turn
    obtain ⟨turn, turn'⟩ := turn_append.1 turn
    obtain ⟨below, more, hbelow, hmore, rfl⟩ := Item.drawAll_text_ok.1 h
    obtain ⟨below', hbelow', inner⟩ := Item.drawAll_loads marker nested turn hbelow
    obtain ⟨more', hmore', others⟩ := Item.drawAll_loads marker rest turn' hmore
    refine ⟨_, Item.drawAll_text_ok.2 ⟨below', more', hbelow', hmore', rfl⟩, ?_⟩
    split
    · exact others
    · exact ((inner.listOf marker).entry icon _).append others
  | .block content icon nested :: rest, ns, turn, h => by
    unfold Item.cardsDrawnAll at turn
    obtain ⟨turn, turn'⟩ := turn_append.1 turn
    obtain ⟨turn', turn''⟩ := turn_append.1 turn'
    obtain ⟨below, o, more, hbelow, ho, hmore, rfl⟩ := Item.drawAll_block_ok.1 h
    obtain ⟨below', hbelow', inner⟩ := Item.drawAll_loads marker nested turn hbelow
    obtain ⟨o', ho', first⟩ := Block.drawTree_loads content turn' ho
    obtain ⟨more', hmore', others⟩ := Item.drawAll_loads marker rest turn'' hmore
    refine ⟨_, Item.drawAll_block_ok.2 ⟨below', o', more', hbelow', ho', hmore', rfl⟩, ?_⟩
    refine Loaded.append ?_ others
    cases o with
    | none =>
      obtain rfl : o' = none := Option.toList_eq_nil_iff.1 first.same
      exact loaded_nil
    | some n =>
      obtain rfl : o' = some n.loaded := Option.toList_eq_singleton_iff.1 first.same
      exact (inner.listOf marker).entryOf first icon

end

/-! ## Pages -/

/-- A block that is drawn as it will look is drawn as a block among others. -/
theorem Preview.drawBlocks_eq (shown : c.asMarkdown = false) (bs : List Block) :
    drawBlocks c bs = Block.drawAll c bs := by
  induction bs with
  | nil => rfl
  | cons b bs ih =>
    have same : b.draw c = b.drawTree c := if_neg (by simp [shown])
    rw [drawBlocks, Block.drawAll, same, ih]

theorem Block.draw_markdown (markdown : c.asMarkdown = true) (b : Block) :
    ∃ o : Option Node, b.draw c = pure o ∧ drawnCards o = [] := by
  refine ⟨_, if_pos markdown, ?_⟩
  split
  · rfl
  · exact cards_classed "pre" "markdown-source" b.markdown

/-- The sources of the cards that a preview draws; one that shows markdown draws none. -/
def Preview.cardsOf (c : Context) (bs : List Block) : List Value :=
  if c.asMarkdown then [] else Block.cardsDrawnAll bs

theorem Preview.drawBlocks_loads : ∀ {bs : List Block} {ns : List Node},
    Turn t s (cardsOf c bs) → (drawBlocks c bs).outcome t = .ok ns →
      ∃ ms, (drawBlocks c bs).outcome s = .ok ms ∧ Loaded ns ms := by
  intro bs ns turn h
  unfold cardsOf at turn
  cases markdown : c.asMarkdown with
  | false =>
    rw [markdown] at turn
    rw [drawBlocks_eq markdown] at h ⊢
    exact Block.drawAll_loads bs turn h
  | true =>
    -- nothing that is shown as markdown is a card
    refine ⟨ns, ?_⟩
    induction bs generalizing ns with
    | nil =>
      cases h
      exact ⟨rfl, loaded_nil⟩
    | cons b bs ih =>
      obtain ⟨o, more, ho, hmore, rfl⟩ := drawBlocks_cons_ok.1 h
      obtain ⟨o', drawn, cardless⟩ := b.draw_markdown markdown
      obtain ⟨again, others⟩ := ih (by rw [markdown]; exact nofun) hmore
      rw [drawn] at ho
      cases ho
      refine ⟨drawBlocks_cons_ok.2 ⟨_, _, ?_, again, rfl⟩, (loaded_cardless cardless).append others⟩
      rw [drawn]
      rfl

theorem Preview.drawBlocks_tracks (c : Context) (bs : List Block) :
    (drawBlocks c bs).Tracks (cardsOf c bs) := by
  unfold cardsOf
  cases markdown : c.asMarkdown with
  | false =>
    rw [drawBlocks_eq markdown]
    exact Block.drawAll_tracks c bs
  | true =>
    induction bs with
    | nil => exact tracks_pure []
    | cons b bs ih =>
      obtain ⟨o, drawn, -⟩ := b.draw_markdown markdown
      unfold drawBlocks
      rw [drawn]
      exact (tracks_pure o).bind fun _ => ih.before fun _ => tracks_pure _

namespace Render

def RenderedSection.cardsDrawn (c : Preview.Context) (r : RenderedSection) : List Value :=
  if r.visible then Preview.cardsOf c r.blocks else []

def Output.cardsDrawn (c : Preview.Context) (out : Output) : List Value :=
  out.sections.flatMap (·.cardsDrawn c)

/-- The element of a section with what its blocks show, if they show anything. -/
def RenderedSection.node (r : RenderedSection) (nodes : List Node) : Option Node :=
  if nodes.isEmpty then none
  else some (element "section"
    [("id", some r.id), ("class", some ("section section-" ++ r.type)),
      ("data-section-type", some r.type)]
    (Preview.part? r.title (Preview.classed "h2" "section-title") :: nodes.map inside) false)

theorem RenderedSection.draw_ok {r : RenderedSection} (visible : r.visible = true) :
    (r.draw c).outcome t = .ok o ↔
      ∃ nodes, (drawBlocks c r.blocks).outcome t = .ok nodes ∧ o = r.node nodes := by
  have shown : r.draw c = r.node <$> drawBlocks c r.blocks := by
    unfold RenderedSection.draw
    rw [if_pos visible]
    refine congrArg (drawBlocks c r.blocks >>= ·) (funext fun nodes => ?_)
    unfold RenderedSection.node
    split <;> rfl
  rw [shown, outcome_map_ok]
  exact exists_congr fun _ => and_congr_right fun _ => eq_comm

theorem RenderedSection.node_loaded (r : RenderedSection) (h : Loaded ns ms) :
    Loaded (r.node ns).toList (r.node ms).toList := by
  unfold RenderedSection.node
  rw [h.same, List.isEmpty_map, ← h.same]
  split
  · exact loaded_nil
  · exact (h.asParts.part? r.title fun s => cards_classed "h2" "section-title" s).element
      (by simp [isSourceAttr]) "section" false

theorem RenderedSection.draw_loads {r : RenderedSection} (turn : Turn t s (r.cardsDrawn c))
    (h : (r.draw c).outcome t = .ok o) :
    ∃ o', (r.draw c).outcome s = .ok o' ∧ Loaded o.toList o'.toList := by
  cases visible : r.visible with
  | false =>
    have nothing : r.draw c = pure none := by
      unfold RenderedSection.draw
      rw [visible]
      rfl
    rw [nothing] at h ⊢
    cases h
    exact ⟨none, rfl, loaded_nil⟩
  | true =>
    unfold RenderedSection.cardsDrawn at turn
    rw [if_pos visible] at turn
    obtain ⟨ns, hns, rfl⟩ := (RenderedSection.draw_ok visible).1 h
    obtain ⟨ms, hms, loaded⟩ := drawBlocks_loads turn hns
    exact ⟨_, (RenderedSection.draw_ok visible).2 ⟨ms, hms, rfl⟩, r.node_loaded loaded⟩

theorem RenderedSection.draw_tracks (c : Preview.Context) (r : RenderedSection) :
    (r.draw c).Tracks (r.cardsDrawn c) := by
  unfold RenderedSection.draw RenderedSection.cardsDrawn
  cases r.visible with
  | false => exact tracks_pure none
  | true =>
    refine (drawBlocks_tracks c r.blocks).before fun nodes => ?_
    split <;> exact tracks_pure _

theorem Output.draw_tracks (c : Preview.Context) (out : Output) :
    (out.draw c).Tracks (out.cardsDrawn c) :=
  (tracks_mapM (RenderedSection.draw_tracks c) out.sections).before fun _ => tracks_pure _

theorem Output.draw_loads {out : Output} {n : Node} (turn : Turn t s (out.cardsDrawn c))
    (h : (out.draw c).outcome t = .ok n) :
    (out.draw c).outcome s = .ok n.loaded ∧ n.loaded.IsBare := by
  have steady := steady_mapM (RenderedSection.draw_steady c) out.sections
  have sections : ∀ {rs : List RenderedSection} {os : List (Option Node)},
      Turn t s (rs.flatMap (·.cardsDrawn c)) →
      List.Forall₂ (fun r o => (r.draw c).outcome t = .ok o) rs os →
      ∃ os', List.Forall₂ (fun r o => (r.draw c).outcome s = .ok o) rs os' ∧
        Loaded (os.filterMap id) (os'.filterMap id) := by
    intro rs os turn each
    induction each with
    | nil => exact ⟨[], .nil, loaded_nil⟩
    | @cons r o rs os first _ ih =>
      obtain ⟨turn, turn'⟩ := turn_append.1 turn
      obtain ⟨o', again, loaded⟩ := RenderedSection.draw_loads turn first
      obtain ⟨os', each', others⟩ := ih turn'
      refine ⟨o' :: os', .cons again each', ?_⟩
      cases o <;> cases o' <;> first | exact others | exact loaded.append others
  unfold Output.draw at h ⊢
  obtain ⟨os, hos, h⟩ := (steady.outcome_bind_ok fun _ => steady_pure _).1 h
  obtain ⟨os', each, loaded⟩ :=
    sections turn ((outcome_mapM_ok (RenderedSection.draw_steady c)).1 hos)
  cases h
  have bare : ([("class", some ("preview theme-" ++ Named.name c.theme)),
      ("data-template", some out.context.templateId)] : List (String × Option String)).any
        (isSourceAttr ·.1) = false := by simp [isSourceAttr]
  have root := loaded.asParts.element bare "div" false
  have same := List.singleton_inj.1 root.same
  rw [← same]
  refine ⟨?_, root.bare _ (List.mem_singleton_self _)⟩
  exact (steady.outcome_bind_ok fun _ => steady_pure _).2
    ⟨os', (outcome_mapM_ok (RenderedSection.draw_steady c)).2 each, rfl⟩

end Render

end

/-! ## All that is pending loads -/

theorem Value.sameKey_self {v : Value} {s : String} (text : Reader.text v = .ok s) :
    v.sameKey v = true := by
  cases v with
  | text u => exact Value.sameKey_text.2 rfl
  | bytes bs => exact decide_eq_true rfl
  | _ => cases text

namespace Preview

theorem CardImage.loaded_seen (i : CardImage) (timeout now : Binary64) :
    ((i.settle timeout now .loaded).seen timeout now).status =
      if (i.seen timeout now).status = .loading then .loaded else (i.seen timeout now).status := by
  unfold settle
  dsimp only
  split
  · rw [seen_settled (by simp)]
  · rw [seen_same]

namespace Tracker

variable {t : Tracker} {v : Value} {s : String}

theorem look_of_find? {i : CardImage} (found : t.find? v = some i) :
    t.look v = (i.seen t.timeout t.now).status := by
  unfold look
  rw [found]

/-- What a page can write is found under its source. -/
theorem find?_ok (text : Reader.text v = .ok s) :
    (∃ i, t.find? v = some i ∧ i.src = v) ↔ v ∈ t.sources := by
  constructor
  · rintro ⟨i, found, rfl⟩
    exact List.mem_map_of_mem (List.mem_of_find?_eq_some found)
  · intro known
    obtain ⟨i, hi, rfl⟩ := List.mem_map.1 known
    have some : (t.find? i.src).isSome := List.find?_isSome.2 ⟨i, hi, Value.sameKey_self text⟩
    obtain ⟨j, found⟩ := Option.isSome_iff_exists.1 some
    have here : j.src.sameKey i.src = true :=
      List.find?_some (p := fun j : CardImage => j.src.sameKey i.src) found
    exact ⟨j, found, eq_of_sameKey text here⟩

theorem sources_mark (src : Value) (outcome : ImageStatus) :
    (t.mark src outcome).sources = t.sources :=
  update_sources (fun i => i.settle_src outcome) t src

/-- A report that an image has loaded counts for those that are loading under its source. -/
theorem look_mark (text : Reader.text v = .ok s) (known : v ∈ t.sources) (src : Value) :
    (t.mark src .loaded).look v =
      if v.sameKey src ∧ t.look v = .loading then .loaded else t.look v := by
  obtain ⟨i, found, rfl⟩ := (find?_ok text).2 known
  have reported : (t.mark src .loaded).find? i.src =
      some (if i.src.sameKey src then i.settle t.timeout t.now .loaded else i) := by
    unfold mark
    rw [t.find?_update fun i => i.settle_src .loaded, found]
    rfl
  have frame : (t.mark src .loaded).timeout = t.timeout ∧ (t.mark src .loaded).now = t.now :=
    ⟨rfl, rfl⟩
  rw [look_of_find? reported, look_of_find? found, frame.1, frame.2]
  by_cases here : i.src.sameKey src = true
  · rw [if_pos here, CardImage.loaded_seen]
    simp only [here, true_and]
  · rw [if_neg here, if_neg fun h => here h.1]

theorem look_mark_loaded (text : Reader.text v = .ok s) (known : v ∈ t.sources)
    (loaded : t.look v = .loaded) (src : Value) : (t.mark src .loaded).look v = .loaded := by
  rw [look_mark text known, loaded, if_neg fun h => nomatch h.2]

/-- After reports on all of these images, none that was loading is. -/
theorem look_marks (text : Reader.text v = .ok s) :
    ∀ (waiting : List CardImage) {t : Tracker}, v ∈ t.sources →
      (t.look v = .loaded ∨ t.look v = .loading ∧ ∃ i ∈ waiting, i.src = v) →
        (waiting.foldl (fun t i => t.mark i.src .loaded) t).look v = .loaded
  | [], t, _, .inl loaded => loaded
  | i :: rest, t, known, h => by
    refine look_marks text rest (by rwa [sources_mark]) ?_
    obtain loaded | ⟨loading, j, hj, rfl⟩ := h
    · exact .inl (look_mark_loaded text known loaded i.src)
    rw [look_mark text known]
    by_cases here : j.src.sameKey i.src = true
    · exact .inl (if_pos ⟨here, loading⟩)
    · rw [if_neg fun h => here h.1]
      rcases List.mem_cons.1 hj with rfl | later
      · exact absurd (Value.sameKey_self text) here
      · exact .inr ⟨loading, j, later, rfl⟩

theorem find?_pending : t.pending.2.find? v = (t.find? v).map (·.seen t.timeout t.now) := by
  show List.find? _ (t.images.map _) = _
  rw [List.find?_map]
  simp only [Function.comp_def, CardImage.seen_src]
  rfl

theorem look_pending : t.pending.2.look v = t.look v := by
  unfold look
  rw [find?_pending]
  cases t.find? v with
  | none => rfl
  | some i => exact congrArg CardImage.status (i.seen_same t.timeout t.now)

/-- What was loading has loaded. -/
theorem look_loadPending (text : Reader.text v = .ok s) (known : v ∈ t.sources)
    (loading : t.look v = .loading) : t.loadPending.2.look v = .loaded := by
  obtain ⟨i, found, rfl⟩ := (find?_ok text).2 known
  have there := (find?_pending (t := t)).trans (congrArg (Option.map _) found)
  have waits : i.seen t.timeout t.now ∈ t.pending.1 := by
    refine List.mem_filter.2 ⟨List.mem_of_find?_eq_some there, ?_⟩
    exact beq_iff_eq.2 ((look_of_find? found).symm.trans loading)
  have known' : i.src ∈ t.pending.2.sources := (find?_ok text).1 ⟨_, there, i.seen_src⟩
  exact look_marks text _ known'
    (.inr ⟨look_pending.trans loading, _, waits, i.seen_src⟩)

/-- An image that nothing is known of has its time before it. -/
theorem look_new {timeout now : Binary64} (positive : Binary64.zero.lt timeout = true)
    (text : Reader.text v = .ok s) : look { timeout, now } v = .loading := by
  show (if v.sameKey v then newStatus { timeout, now } else .failed) = _
  rw [if_pos (Value.sameKey_self text)]
  exact if_neg (by simp [Binary64.not_le_sub_self positive])

end Tracker

end Preview

/-- A second drawing, after all that is pending has loaded, gives the first one with the images
themselves, and no skeleton. -/
theorem Render.Output.draw_again {c : Preview.Context} {out : Render.Output}
    {timeout now : Binary64} {first : Node} {t : Tracker}
    (positive : Binary64.zero.lt timeout = true)
    (drawn : (out.draw c).run { timeout, now } = (.ok first, t)) :
    (out.draw c).outcome t.loadPending.2 = .ok first.loaded ∧ first.loaded.IsBare := by
  obtain ⟨tracked, texts⟩ := Output.draw_tracks c out _ _ _ drawn
  have same : t.look = Tracker.look { timeout, now } := by
    have keeps := (Output.draw_steady c out).keeps { timeout, now }
    rwa [drawn] at keeps
  refine Output.draw_loads (t := { timeout, now }) (fun v hv => ?_) (outcome_ok.2 ⟨t, drawn⟩)
  obtain ⟨s, text⟩ := texts v hv
  have loading : Tracker.look { timeout, now } v = .loading := Tracker.look_new positive text
  have known : v ∈ t.sources := by
    rw [tracked]
    exact mem_fresh text hv rfl
  exact ⟨loading, Tracker.look_loadPending text known (by rw [same, loading])⟩

end ProfileReadme
