/-
The links of a preview, and the tree in which each link is followed from a base. Trees that hold
trees are followed part by part, and a tree stays as it is exactly if its links do. The image of a
card is a link of its tree once it is seen loaded.
-/
import ProfileReadme.Proofs.Outcome
import ProfileReadme.Proofs.Preview.Failing
import ProfileReadme.Proofs.Preview.Steady
import ProfileReadme.Proofs.Url.Served

namespace ProfileReadme

namespace Preview

/-! ## The links of a tree -/

/-- Whether an attribute holds a link. -/
def isLinkAttr (name : String) : Bool := name = "href" || name = "src"

def linksOf (attrs : List (String × String)) : List String :=
  (attrs.filter (isLinkAttr ·.1)).map (·.2)

theorem linksOf_cons (k v : String) (as : List (String × String)) :
    linksOf ((k, v) :: as) = (if isLinkAttr k then [v] else []) ++ linksOf as := by
  unfold linksOf
  cases link : isLinkAttr k <;> simp [link]

mutual

/-- The links of a tree, in order. -/
def Node.links : Node → List String
  | .mk _ attrs children _ => linksOf attrs ++ Child.linksAll children

def Child.linksAll : List Child → List String
  | [] => []
  | .text _ :: rest => Child.linksAll rest
  | .node n :: rest => n.links ++ Child.linksAll rest

end

/-- An attribute whose link is followed from a base. -/
def followAttr (base : Option String) : String × String → Except Url.Fault (String × String)
  | (k, v) => if isLinkAttr k then (k, ·) <$> Url.resolve v base else .ok (k, v)

mutual

/-- A tree with each of its links as a page at a base follows it. -/
def Node.follow (base : Option String) : Node → Except Url.Fault Node
  | .mk tag attrs children raw => do
    let attrs ← attrs.mapM (followAttr base)
    let children ← Child.followAll base children
    return .mk tag attrs children raw

def Child.follow (base : Option String) : Child → Except Url.Fault Child
  | .text s => .ok (.text s)
  | .node n => Child.node <$> n.follow base

def Child.followAll (base : Option String) : List Child → Except Url.Fault (List Child)
  | [] => .ok []
  | c :: rest => do
    let c ← c.follow base
    let rest ← Child.followAll base rest
    return c :: rest

end

open Drawing

variable {base : Option String}

/-- Links that a page at a base follows to themselves. -/
def Stay (base : Option String) (links : List String) : Prop :=
  ∀ u ∈ links, Url.resolve u base = .ok u

theorem stay_nil : Stay base [] := nofun

theorem stay_append {us vs : List String} : Stay base (us ++ vs) ↔ Stay base us ∧ Stay base vs :=
  List.forall_mem_append

theorem stay_single {u : String} : Stay base [u] ↔ Url.resolve u base = .ok u :=
  List.forall_mem_singleton

theorem stay_onHost {u : String} (h : Url.OnHost u) : Stay base [u] :=
  stay_single.2 (h.resolve base)

theorem followAttr_self (k v : String) :
    followAttr base (k, v) = .ok (k, v) ↔ (isLinkAttr k = true → Url.resolve v base = .ok v) := by
  show (if isLinkAttr k then (k, ·) <$> Url.resolve v base else .ok (k, v)) = _ ↔ _
  cases isLinkAttr k with
  | true => exact (map_ok_iff fun _ _ same => (Prod.mk.inj same).2).trans (imp_iff_right rfl).symm
  | false => exact iff_of_true rfl nofun

theorem follow_attrs_self : ∀ attrs : List (String × String),
    attrs.mapM (followAttr base) = .ok attrs ↔ Stay base (linksOf attrs)
  | [] => iff_of_true rfl nofun
  | (k, v) :: attrs => by
    rw [mapM_cons_ok, followAttr_self, follow_attrs_self attrs, linksOf_cons, stay_append]
    refine and_congr_left' ?_
    cases isLinkAttr k with
    | true => exact (imp_iff_right rfl).trans stay_single.symm
    | false => exact iff_of_true nofun stay_nil

theorem Child.followAll_eq : ∀ cs : List Child,
    Child.followAll base cs = cs.mapM (Child.follow base)
  | [] => rfl
  | c :: cs => by
    rw [Child.followAll, List.mapM_cons, Child.followAll_eq cs]

theorem node_injective (tag : String) (raw : Bool) :
    Function.Injective2 fun attrs children => Node.mk tag attrs children raw :=
  fun _ _ _ _ same => ⟨(Node.mk.inj same).2.1, (Node.mk.inj same).2.2.1⟩

mutual

/-- A tree stays as it is exactly if its links do. -/
theorem Node.follow_self : ∀ n : Node,
    n.follow base = .ok n ↔ Stay base n.links
  | .mk tag attrs children raw => by
    rw [Node.follow, both_ok_iff (node_injective tag raw), follow_attrs_self,
      Child.follow_self children, Node.links, stay_append]

theorem Child.follow_self : ∀ cs : List Child,
    Child.followAll base cs = .ok cs ↔ Stay base (Child.linksAll cs)
  | [] => iff_of_true rfl nofun
  | .text s :: rest => by
    rw [Child.followAll, both_ok_iff (fun _ _ _ _ => List.cons.inj), Child.follow_self rest,
      Child.linksAll]
    exact and_iff_right rfl
  | .node n :: rest => by
    rw [Child.followAll, both_ok_iff (fun _ _ _ _ => List.cons.inj), Child.follow_self rest,
      Child.follow, map_ok_iff (fun _ _ => Child.node.inj), Node.follow_self n, Child.linksAll,
      stay_append]

end

theorem follow_bare {n : Node} (bare : n.links = []) : n.follow base = .ok n := by
  rw [n.follow_self, bare]
  exact stay_nil

/-! ## Parts -/

/-- The links of a part, which may be absent. -/
def linksIn : Option Child → List String
  | some (.node n) => n.links
  | _ => []

/-- The links among attributes, each of which may be absent. -/
theorem linksOf_present : ∀ attrs : List (String × Option String),
    linksOf (attrs.filterMap fun (k, v) => v.map (k, ·)) =
      attrs.flatMap fun (k, v) => if isLinkAttr k then v.toList else []
  | [] => rfl
  | (k, none) :: attrs => by
    rw [List.flatMap_cons, ← linksOf_present attrs]
    show _ = (if isLinkAttr k then [] else []) ++ _
    rw [ite_self]
    rfl
  | (k, some v) :: attrs => by
    rw [List.flatMap_cons, ← linksOf_present attrs]
    exact linksOf_cons k v _

@[simp] theorem links_element (tag : String) (attrs : List (String × Option String))
    (parts : List (Option Child)) (raw : Bool) :
    (element tag attrs parts raw).links =
      (attrs.flatMap fun (k, v) => if isLinkAttr k then v.toList else []) ++
        parts.flatMap linksIn := by
  rw [← linksOf_present]
  show linksOf _ ++ Child.linksAll (parts.filterMap id) = _
  congr 1
  induction parts with
  | nil => rfl
  | cons part rest ih =>
    rcases part with _ | s | n
    · exact ih
    · exact ih
    · exact congrArg (n.links ++ ·) ih

theorem linksOf_bare {attrs : List (String × Option String)}
    (bare : ∀ a ∈ attrs, isLinkAttr a.1 = false) :
    linksOf (attrs.filterMap fun (k, v) => v.map (k, ·)) = [] := by
  rw [linksOf_present, List.flatMap_eq_nil_iff]
  intro a ha
  exact if_neg (by simp [bare a ha])

@[simp] theorem linksIn_none : linksIn none = [] := rfl

@[simp] theorem linksIn_words (s : String) : linksIn (words s) = [] := rfl

@[simp] theorem linksIn_inside (n : Node) : linksIn (inside n) = n.links := rfl

@[simp] theorem links_classed (tag cls s : String) : (classed tag cls s).links = [] := rfl

@[simp] theorem links_plain (tag s : String) : (plain tag s).links = [] := rfl

@[simp] theorem links_lazyImage (src alt : String) (cls : Option String) :
    (lazyImage src alt cls).links = [src] := by
  cases cls <;> rfl

@[simp] theorem links_outerLink (href s : String) : (outerLink href s).links = [href] := rfl

@[simp] theorem linksIn_part? (s : Option String) (draw : String → Node) :
    linksIn (part? s draw) = (Text.filled? s).toList.flatMap fun s => (draw s).links := by
  unfold part?
  cases Text.filled? s with
  | none => rfl
  | some s => exact (List.append_nil _).symm

@[simp] theorem linksIn_bullets (ss : List String) : linksIn (bullets ss) = [] := by
  unfold bullets
  split
  · rfl
  · simp

@[simp] theorem linksIn_container (tag cls : String) (nodes : List Node) :
    linksIn ((container tag [("class", some cls)] nodes).map Child.node) =
      nodes.flatMap Node.links := by
  unfold container
  split
  next empty =>
    rw [List.isEmpty_iff.1 empty]
    rfl
  next =>
    show (element tag _ (nodes.map inside) false).links = _
    simp [isLinkAttr, List.flatMap_map]

/-- The parts that are there, each of which becomes another when it is followed. -/
def PartsFollow (base : Option String) (parts parts' : List (Option Child)) : Prop :=
  (parts.filterMap id).mapM (Child.follow base) = .ok (parts'.filterMap id)

/-- An element without links of its own is followed as its parts are. -/
theorem element_follow_bare {tag : String} {attrs : List (String × Option String)} {raw : Bool}
    {parts parts' : List (Option Child)} (bare : ∀ a ∈ attrs, isLinkAttr a.1 = false) :
    (element tag attrs parts raw).follow base = .ok (element tag attrs parts' raw) ↔
      PartsFollow base parts parts' := by
  unfold element
  rw [Node.follow, both_ok_iff (node_injective tag raw), follow_attrs_self, linksOf_bare bare,
    Child.followAll_eq]
  exact and_iff_right nofun

/-- An element whose first attribute alone is a link. -/
theorem element_follow_linked {tag k u u' : String} {attrs : List (String × Option String)}
    {raw : Bool} {parts parts' : List (Option Child)} (link : isLinkAttr k = true)
    (followed : Url.resolve u base = .ok u') (bare : ∀ a ∈ attrs, isLinkAttr a.1 = false)
    (inner : PartsFollow base parts parts') :
    (element tag ((k, some u) :: attrs) parts raw).follow base =
      .ok (element tag ((k, some u') :: attrs) parts' raw) := by
  have first : followAttr base (k, u) = .ok (k, u') := by
    show (if isLinkAttr k then (k, ·) <$> Url.resolve u base else .ok (k, u)) = _
    rw [if_pos link, followed]
    rfl
  unfold element
  rw [Node.follow, both_ok_iff (node_injective tag raw), Child.followAll_eq]
  refine ⟨mapM_cons_ok.2 ⟨first, (follow_attrs_self _).2 ?_⟩, inner⟩
  rw [linksOf_bare bare]
  exact nofun

/-- Trees that become others, tree by tree, when they are followed exactly if `P`. -/
structure FollowIff (base : Option String) (P : Prop) (ns ms : List Node) : Prop where
  length : ns.length = ms.length
  iff : ns.mapM (Node.follow base) = .ok ms ↔ P

variable {P Q : Prop} {ns ms ns' ms' : List Node}

theorem FollowIff.congr (h : FollowIff base P ns ms) (same : P ↔ Q) : FollowIff base Q ns ms :=
  ⟨h.length, h.iff.trans same⟩

theorem followIff_nil : FollowIff base True [] [] := ⟨rfl, iff_of_true rfl trivial⟩

theorem followIff_single {n m : Node} (h : n.follow base = .ok m ↔ P) : FollowIff base P [n] [m] :=
  ⟨rfl, mapM_cons_ok.trans ((and_iff_left rfl).trans h)⟩

theorem FollowIff.single {n m : Node} (h : FollowIff base P [n] [m]) :
    n.follow base = .ok m ↔ P := by
  rw [← h.iff, mapM_cons_ok]
  exact (and_iff_left rfl).symm

theorem FollowIff.append (h : FollowIff base P ns ms) (h' : FollowIff base Q ns' ms') :
    FollowIff base (P ∧ Q) (ns ++ ns') (ms ++ ms') := by
  obtain ⟨length, iff⟩ := h
  refine ⟨by rw [List.length_append, List.length_append, length, h'.length], ?_⟩
  rw [← iff, ← h'.iff]
  clear iff
  induction ns generalizing ms with
  | nil =>
    cases List.length_eq_zero_iff.1 length.symm
    exact (and_iff_right rfl).symm
  | cons n ns ih =>
    obtain ⟨m, ms, rfl⟩ := List.exists_cons_of_length_eq_add_one length.symm
    rw [List.cons_append, List.cons_append, mapM_cons_ok, mapM_cons_ok,
      ih (Nat.succ.inj length), and_assoc]

theorem partsFollow_nodes : ∀ {ns ms : List Node}, ns.length = ms.length →
    (PartsFollow base (ns.map inside) (ms.map inside) ↔ ns.mapM (Node.follow base) = .ok ms)
  | [], [], _ => iff_of_true rfl rfl
  | n :: ns, m :: ms, length => by
    rw [mapM_cons_ok, ← partsFollow_nodes (Nat.succ.inj length)]
    refine mapM_cons_ok.trans (and_congr_left' ?_)
    exact map_ok_iff fun _ _ => Child.node.inj

/-- A container is followed as what it contains. -/
theorem FollowIff.container {tag : String} {attrs : List (String × Option String)}
    (h : FollowIff base P ns ms) (bare : ∀ a ∈ attrs, isLinkAttr a.1 = false) :
    FollowIff base P (container tag attrs ns).toList (container tag attrs ms).toList := by
  obtain ⟨length, iff⟩ := h
  cases ns with
  | nil =>
    cases List.length_eq_zero_iff.1 length.symm
    exact followIff_nil.congr ((iff_of_true rfl trivial).symm.trans iff)
  | cons n ns =>
    obtain ⟨m, ms, rfl⟩ := List.exists_cons_of_length_eq_add_one length.symm
    refine followIff_single ((element_follow_bare bare).trans ?_)
    exact (partsFollow_nodes length).trans iff

theorem FollowIff.arrange {layout : Layout} (h : FollowIff base P ns ms) :
    FollowIff base P (arrange layout ns).toList (arrange layout ms).toList := by
  cases layout <;> exact h.container (by simp [isLinkAttr])

theorem FollowIff.listOf {marker : ListMarker} (h : FollowIff base P ns ms) :
    FollowIff base P (listOf marker ns).toList (listOf marker ms).toList := by
  cases marker <;> exact h.container (by simp [isLinkAttr])

/-- An item is followed as its content and what is below it; an icon has no links. -/
theorem FollowIff.entry {icon : Option String} {content content' : Child}
    {below below' : Option Node} {raw : Bool} (hcontent : content.follow base = .ok content' ↔ P)
    (h : FollowIff base Q below.toList below'.toList) :
    FollowIff base (P ∧ Q) [entry icon content below raw] [entry icon content' below' raw] := by
  have hicon (s : String) : Child.follow base (.node (classed "span" "list-icon" s)) =
      .ok (.node (classed "span" "list-icon" s)) :=
    (map_ok_iff fun _ _ => Child.node.inj).2 (follow_bare rfl)
  have hbelow : PartsFollow base [below.map .node] [below'.map .node] ↔ Q := by
    rw [← h.iff, ← partsFollow_nodes h.length]
    cases below <;> cases below' <;> rfl
  have hinner : PartsFollow base [some content, below.map .node] [some content', below'.map .node] ↔
      P ∧ Q := mapM_cons_ok.trans (and_congr hcontent hbelow)
  refine followIff_single ((element_follow_bare (by simp)).trans ?_)
  unfold part?
  cases Text.filled? icon with
  | none => exact hinner
  | some s => exact mapM_cons_ok.trans ((and_iff_right (hicon s)).trans hinner)

theorem lazyImage_follow {src : String} (onHost : Url.OnHost src) (alt : String)
    (cls : Option String) : (lazyImage src alt cls).follow base = .ok (lazyImage src alt cls) := by
  rw [Node.follow_self, links_lazyImage]
  exact stay_onHost onHost

/-- Parts in front that have no links stay as they are. -/
theorem PartsFollow.cons {part : Option Child}
    {parts parts' : List (Option Child)}
    (h : PartsFollow base parts parts') (bare : linksIn part = []) :
    PartsFollow base (part :: parts) (part :: parts') := by
  rcases part with _ | s | n
  · exact h
  · exact mapM_cons_ok.2 ⟨rfl, h⟩
  · exact mapM_cons_ok.2 ⟨(map_ok_iff fun _ _ => Child.node.inj).2 (follow_bare bare), h⟩

theorem PartsFollow.head {n m : Node} {parts : List (Option Child)} (h : n.follow base = .ok m)
    (bare : ∀ part ∈ parts, linksIn part = []) :
    PartsFollow base (inside n :: parts) (inside m :: parts) := by
  refine mapM_cons_ok.2 ⟨(map_ok_iff fun _ _ => Child.node.inj).2 h, ?_⟩
  induction parts with
  | nil => rfl
  | cons part parts ih =>
    exact PartsFollow.cons (ih fun p hp => bare p (List.mem_cons_of_mem _ hp))
      (bare part (List.mem_cons_self ..))

theorem partsFollow_node {n m : Node} (h : n.follow base = .ok m) :
    PartsFollow base [inside n] [inside m] := .head h nofun

/-- Trees stay as they are exactly if their links do. -/
theorem followIff_self : ∀ ns : List Node,
    FollowIff base (Stay base (ns.flatMap Node.links)) ns ns
  | [] => followIff_nil.congr (iff_of_true trivial stay_nil)
  | n :: ns => by
    refine ((followIff_single (Node.follow_self n)).append (followIff_self ns)).congr ?_
    rw [List.flatMap_cons, stay_append]

theorem outerLink_follow {u w : String} (s : String)
    (h : Url.resolve u base = .ok w) : (outerLink u s).follow base = .ok (outerLink w s) :=
  element_follow_linked (by decide) h (by simp [isLinkAttr]) rfl

/-! ## Images of cards -/

theorem readAttrs_eq_ok : ∀ {attrs : List (String × Value)} {as : List (String × String)},
    readAttrs attrs = .ok as →
      List.Forall₂ (fun a b => b.1 = a.1 ∧ Reader.text a.2 = .ok b.2) attrs as
  | [], as, h => by
    cases h
    exact .nil
  | (k, v) :: rest, as, h => by
    obtain ⟨g, more, hg, hmore, rfl⟩ := Checked.seq_eq_ok h
    obtain ⟨s, hs, rfl⟩ := Checked.map_eq_ok hg
    exact .cons ⟨rfl, Checked.inField_eq_ok hs⟩ (readAttrs_eq_ok hmore)

/-- The attributes with a value, each under its name and with its text. -/
def Written (attrs : List (String × Value)) (as : List (String × String)) : Prop :=
  List.Forall₂ (fun a b => b.1 = attrName a.1 ∧ Reader.text a.2 = .ok b.2)
    (attrs.filter fun (_, v) => !(v matches .null)) as

theorem elementOf_eq_ok {tag : String} {attrs : List (String × Value)}
    {children : List (Option Child)} {raw : Bool} {n : Node}
    (distinct : ((attrs.map Prod.fst).map attrName).Nodup)
    (h : elementOf tag attrs children raw = .ok n) :
    ∃ as, n = .mk tag as (children.filterMap id) raw ∧ Written attrs as := by
  unfold elementOf at h
  dsimp only at h
  obtain ⟨as, has, rfl⟩ := Checked.map_eq_ok h
  refine ⟨as, rfl, ?_⟩
  rw [foldl_putAttr, List.nil_append] at has
  · exact List.forall₂_map_left_iff.1 (readAttrs_eq_ok (Checked.inField_eq_ok has))
  · rw [List.map_map] at distinct
    rw [List.map_nil, List.nil_append]
    exact distinct.sublist (List.filter_sublist.map _)

theorem Written.first {k : String} {v : Value} {attrs : List (String × Value)}
    {as : List (String × String)} (h : Written ((k, v) :: attrs) as) :
    (v = .null ∧ Written attrs as) ∨
      ∃ s more, Reader.text v = .ok s ∧ as = (attrName k, s) :: more ∧ Written attrs more := by
  unfold Written at h
  by_cases absent : v = .null
  · rw [absent] at h
    exact .inl ⟨absent, h⟩
  · rw [List.filter_cons_of_pos (by cases v <;> first | rfl | exact absurd rfl absent)] at h
    obtain ⟨⟨k', s⟩, more, ⟨name, value⟩, hmore, rfl⟩ := List.forall₂_cons_left_iff.1 h
    obtain rfl : k' = attrName k := name
    exact .inr ⟨s, more, value, rfl, hmore⟩

/-- The names of the attributes that are written are among those that are given. -/
theorem Written.names : ∀ {attrs : List (String × Value)} {as : List (String × String)},
    Written attrs as → ∀ b ∈ as, b.1 ∈ (attrs.map Prod.fst).map attrName
  | [], _, h => by
    cases h
    exact nofun
  | (k, v) :: attrs, as, h => by
    intro b hb
    rcases h.first with ⟨-, hmore⟩ | ⟨s, more, -, rfl, hmore⟩
    · exact List.mem_cons_of_mem _ (hmore.names b hb)
    · rcases List.mem_cons.1 hb with rfl | hb
      · exact List.mem_cons_self ..
      · exact List.mem_cons_of_mem _ (hmore.names b hb)

/-- Attributes with these names hold no links. -/
theorem Written.bare {attrs : List (String × Value)} {as : List (String × String)}
    (h : Written attrs as)
    (bare : ((attrs.map Prod.fst).map attrName).all (!isLinkAttr ·) = true) : linksOf as = [] := by
  unfold linksOf
  rw [List.map_eq_nil_iff, List.filter_eq_nil_iff]
  intro b hb
  have := List.all_eq_true.1 bare b.1 (h.names b hb)
  simpa using this

/-- The image of a card in a status. -/
def cardNode (status : ImageStatus) (src alt : Value) (type : String) : Checked Node :=
  if status = .loaded then
    elementOf "img"
      [("src", src), ("alt", alt), ("loading", .text "lazy"),
        ("class", .text ("stat-card stat-" ++ type))] [] false
  else
    elementOf "div"
      [("class", .text ("stat-card-skeleton stat-" ++ type)), ("role", .text "img"),
        ("aria-label", alt),
        ("aria-busy", if status = .loading then .text "true" else .null),
        ("data-status", Named.write status), ("data-src", src)] [] false

/-- A card is drawn in the status in which its image is seen. -/
theorem card_eq_ok {src alt : Value} {type : String} {t : Tracker} {n : Node}
    (h : (card src alt type).outcome t = .ok n) : cardNode (t.look src) src alt type = .ok n := by
  rw [← Tracker.drawn_status t src alt type]
  unfold card at h
  cases isKey : src.isKey with
  | false =>
    rw [isKey] at h
    cases h
  | true =>
    rw [isKey] at h
    obtain ⟨t', hrun⟩ := outcome_ok.1 h
    obtain ⟨status, s, hstatus, hrun⟩ := bind_run_ok hrun
    cases hstatus
    unfold cardNode
    dsimp only at hrun ⊢
    split at hrun
    next node hnode =>
      cases hrun
      exact hnode
    next => cases hrun

/-- A card that is drawn has its image as a link exactly if the image is seen loaded. -/
theorem card_links {src alt : Value} {type : String} {t : Tracker} {n : Node}
    (there : src ≠ .null) (h : (card src alt type).outcome t = .ok n) :
    ∃ u, Reader.text src = .ok u ∧ n.links = if t.look src = .loaded then [u] else [] := by
  obtain ⟨u, hu⟩ : ∃ u, Reader.text src = .ok u := by
    obtain ⟨t', hrun⟩ := outcome_ok.1 h
    exact (card_returnsIff {} src alt type t).1 ⟨n, t', hrun⟩ src (List.mem_cons_self ..) there
  refine ⟨u, hu, ?_⟩
  have drawn := card_eq_ok h
  unfold cardNode at drawn
  split at drawn
  next loaded =>
    have distinct : (["src", "alt", "loading", "class"].map attrName).Nodup := by decide
    have bare : (["alt", "loading", "class"].map attrName).all (!isLinkAttr ·) = true := by decide
    obtain ⟨as, rfl, has⟩ := elementOf_eq_ok (by exact distinct) drawn
    obtain ⟨none, -⟩ | ⟨u', more, hu', rfl, hmore⟩ := has.first
    · exact absurd none there
    · obtain rfl : u = u' := Checked.ok.inj (hu.symm.trans hu')
      rw [if_pos loaded, Node.links, linksOf_cons, hmore.bare bare]
      rfl
  next waits =>
    let names := ["class", "role", "aria-label", "aria-busy", "data-status", "data-src"]
    have distinct : (names.map attrName).Nodup := by decide
    have bare : (names.map attrName).all (!isLinkAttr ·) = true := by decide
    obtain ⟨as, rfl, has⟩ := elementOf_eq_ok (by exact distinct) drawn
    rw [if_neg waits, Node.links, has.bare bare]
    rfl

end Preview

end ProfileReadme
