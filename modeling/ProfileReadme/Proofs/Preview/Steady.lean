/-
What a drawing sees of the images that are tracked: the status of each source, as someone finds it
who looks at the time. A drawing tracks images, but while the clock stands still that changes no
status. So a drawing does not depend on what was drawn before it, and its outcome can be followed
step by step without the tracker.
-/
import ProfileReadme.Preview.Page
import ProfileReadme.Proofs.Preview.Drawing

namespace ProfileReadme

/-- What a key equals can be a key itself. -/
theorem Value.sameKey_right {v w : Value} (h : v.sameKey w = true) : w.sameKey w = true := by
  have number {n : Int} (units : sameKey.units? w = some n) : w.sameKey w = true := by
    unfold sameKey
    split
    · exact decide_eq_true rfl
    · exact decide_eq_true rfl
    · rfl
    · rw [units]
      exact decide_eq_true rfl
  unfold sameKey at h
  split at h
  · exact decide_eq_true rfl
  · exact decide_eq_true rfl
  · rfl
  · split at h
    next units => exact number units
    · cases h

namespace Preview

/-! ## What is seen of a tracker -/

theorem CardImage.seen_same (i : CardImage) (timeout now : Binary64) :
    (i.seen timeout now).seen timeout now = i.seen timeout now := by
  unfold CardImage.seen
  split
  · simp
  · rfl

namespace Tracker

variable (t : Tracker)

/-- The status of an image that comes now. -/
def newStatus : ImageStatus := if t.timeout.le (t.now.sub t.now) then .failed else .loading

/-- The status in which the image of a source would be drawn now. -/
def look (src : Value) : ImageStatus :=
  match t.find? src with
  | some i => (i.seen t.timeout t.now).status
  | none => if src.sameKey src then t.newStatus else .failed

theorem seen_new (src alt : Value) (card : String) :
    (CardImage.seen { src, alt, card, started := t.now } t.timeout t.now).status =
      t.newStatus := by
  unfold CardImage.seen newStatus CardImage.elapsed
  cases t.timeout.le (t.now.sub t.now) <;> rfl

theorem find?_update {f : CardImage → CardImage} (kept : ∀ i, (f i).src = i.src)
    (src other : Value) : (t.update src f).find? other =
      (t.find? other).map fun i => if i.src.sameKey src then f i else i := by
  have edited (i : CardImage) : (if i.src.sameKey src then f i else i).src = i.src := by
    split
    · exact kept i
    · rfl
  show List.find? _ (t.images.map _) = _
  rw [List.find?_map]
  simp only [Function.comp_def, edited]
  rfl

theorem find?_observe (src other : Value) :
    (t.observe src).2.find? other =
      (t.find? other).map fun i => if i.src.sameKey src then i.seen t.timeout t.now else i := by
  refine t.find?_update (fun i => ?_) src other
  unfold CardImage.seen
  split <;> rfl

/-- To look at an image changes no status. -/
theorem look_observe (src : Value) : (t.observe src).2.look = t.look := by
  funext other
  unfold look
  rw [find?_observe]
  cases t.find? other with
  | none => rfl
  | some i =>
    show ((if i.src.sameKey src then i.seen t.timeout t.now else i).seen t.timeout t.now).status = _
    split
    · rw [CardImage.seen_same]
    · rfl

theorem find?_track_new {src : Value} (new : t.find? src = none) (alt : Value) (card : String)
    (other : Value) :
    (t.track src alt card).find? other = (t.find? other).or
      (if src.sameKey other then some { src, alt, card, started := t.now } else none) := by
  unfold track
  rw [new]
  show List.find? _ (t.images ++ [_]) = _
  rw [List.find?_append]
  refine congrArg _ ?_
  rw [List.find?_singleton]

/-- To track an image changes no status. -/
theorem look_track (src alt : Value) (card : String) : (t.track src alt card).look = t.look := by
  cases known : t.find? src with
  | some i =>
    unfold track
    rw [known]
  | none =>
    have frame : (t.track src alt card).timeout = t.timeout ∧
        (t.track src alt card).now = t.now := by
      unfold track
      rw [known]
      exact ⟨rfl, rfl⟩
    funext other
    unfold look newStatus
    rw [find?_track_new t known, frame.1, frame.2]
    cases t.find? other with
    | some i => rfl
    | none =>
      rw [Option.none_or]
      by_cases same : src.sameKey other = true
      · rw [if_pos same]
        dsimp only
        rw [if_pos (Value.sameKey_right same)]
        exact t.seen_new src alt card
      · rw [if_neg same]

theorem observe_status (src : Value) :
    (t.observe src).1.map (·.status) =
      (t.find? src).map fun i => (i.seen t.timeout t.now).status := by
  show ((t.observe src).2.find? src).map (·.status) = _
  rw [find?_observe, Option.map_map]
  cases found : t.find? src with
  | none => rfl
  | some i =>
    have here : i.src.sameKey src = true :=
      List.find?_some (p := fun i : CardImage => i.src.sameKey src) found
    simp [here]

/-- A source that is tracked now is found, if anything can be found under it. -/
theorem sameKey_of_untracked {src alt : Value} {card : String}
    (h : (t.track src alt card).find? src = none) : src.sameKey src = false := by
  cases known : t.find? src with
  | some i =>
    unfold track at h
    rw [known] at h
    rw [known] at h
    cases h
  | none =>
    rw [find?_track_new t known, known, Option.none_or] at h
    by_contra same
    rw [if_pos (by simpa using same)] at h
    cases h

/-- The status in which the image of a card is drawn. -/
theorem drawn_status (src alt : Value) (card : String) :
    (((t.track src alt card).observe src).1.map (·.status)).getD .failed = t.look src := by
  rw [observe_status, ← look_track t src alt card]
  unfold look
  cases found : (t.track src alt card).find? src with
  | some i => rfl
  | none =>
    rw [if_neg (by simp [sameKey_of_untracked t found])]
    rfl

end Tracker

/-! ## Drawings that see no more -/

namespace Drawing

/-- What comes of a drawing. -/
def outcome (x : Drawing α) (t : Tracker) : Except Fault α := (x.run t).1

/-- A drawing that sees no more of a tracker than the statuses of images, and changes none. -/
structure Steady (x : Drawing α) : Prop where
  sees : ∀ t s : Tracker, t.look = s.look → x.outcome t = x.outcome s
  keeps : ∀ t : Tracker, (x.run t).2.look = t.look

variable {x : Drawing α} {t : Tracker}

theorem outcome_ok {a : α} : x.outcome t = .ok a ↔ ∃ t', x.run t = (.ok a, t') := by
  unfold outcome
  constructor
  · exact fun h => ⟨(x.run t).2, Prod.ext h rfl⟩
  · rintro ⟨t', h⟩
    rw [h]

theorem outcome_map_ok {f : α → β} {b : β} :
    (f <$> x).outcome t = .ok b ↔ ∃ a, x.outcome t = .ok a ∧ f a = b := by
  show (x >>= fun a => pure (f a)).outcome t = _ ↔ _
  unfold outcome
  rw [run_bind]
  rcases x.run t with ⟨fault | a, s⟩
  · exact iff_of_false nofun nofun
  · exact ⟨fun h => ⟨a, rfl, Except.ok.inj h⟩, fun ⟨_, same, h⟩ => by cases same; cases h; rfl⟩

theorem steady_pure (a : α) : (pure a : Drawing α).Steady := ⟨fun _ _ _ => rfl, fun _ => rfl⟩

@[simp] theorem outcome_pure (a : α) (t : Tracker) : (pure a : Drawing α).outcome t = .ok a := rfl

theorem steady_throw (fault : Fault) : (throw fault : Drawing α).Steady :=
  ⟨fun _ _ _ => rfl, fun _ => rfl⟩

/-- What would follow a failure does not matter. -/
theorem steady_throw_bind (fault : Fault) (f : α → Drawing β) : (throw fault >>= f).Steady :=
  ⟨fun _ _ _ => rfl, fun _ => rfl⟩

theorem steady_ofExcept (fault : ε → Fault) (r : Except ε α) : (ofExcept fault r).Steady := by
  cases r with
  | ok a => exact steady_pure a
  | error e => exact steady_throw (fault e)

/-- Steps follow each other as their outcomes do, since a step hides no image from the next. -/
theorem Steady.outcome_bind {f : α → Drawing β} (hx : x.Steady) (hf : ∀ a, (f a).Steady)
    (t : Tracker) : (x >>= f).outcome t = x.outcome t >>= fun a => (f a).outcome t := by
  unfold outcome
  rw [run_bind]
  rcases hrun : x.run t with ⟨fault | a, t'⟩
  · rfl
  · have kept : t'.look = t.look := by
      have kept := hx.keeps t
      rwa [hrun] at kept
    exact (hf a).sees t' t kept

theorem Steady.bind {f : α → Drawing β} (hx : x.Steady) (hf : ∀ a, (f a).Steady) :
    (x >>= f).Steady where
  sees t s same := by
    rw [hx.outcome_bind hf, hx.outcome_bind hf, hx.sees t s same]
    exact congrArg _ (funext fun a => (hf a).sees t s same)
  keeps t := by
    have kept := hx.keeps t
    rw [run_bind]
    rcases hrun : x.run t with ⟨fault | a, t'⟩ <;> rw [hrun] at kept
    · exact kept
    · exact ((hf a).keeps t').trans kept

theorem Steady.outcome_bind_ok {f : α → Drawing β} (hx : x.Steady) (hf : ∀ a, (f a).Steady)
    {b : β} : (x >>= f).outcome t = .ok b ↔
      ∃ a, x.outcome t = .ok a ∧ (f a).outcome t = .ok b := by
  rw [hx.outcome_bind hf]
  cases x.outcome t with
  | ok a => exact ⟨fun h => ⟨a, rfl, h⟩, fun ⟨_, same, h⟩ => by cases same; exact h⟩
  | error fault => exact iff_of_false nofun nofun

/-- Three steps, the results of which are put together. -/
theorem Steady.outcome_steps_ok {y : Drawing β} {z : Drawing γ} {f : α → β → γ → Drawing δ}
    (hx : x.Steady) (hy : y.Steady) (hz : z.Steady) (hf : ∀ a b c, (f a b c).Steady) {d : δ} :
    (do let a ← x; let b ← y; let c ← z; f a b c).outcome t = .ok d ↔
      ∃ a b c, x.outcome t = .ok a ∧ y.outcome t = .ok b ∧ z.outcome t = .ok c ∧
        (f a b c).outcome t = .ok d := by
  rw [hx.outcome_bind_ok fun a => hy.bind fun b => hz.bind (hf a b)]
  simp only [hy.outcome_bind_ok fun b => hz.bind (hf _ b), hz.outcome_bind_ok (hf _ _),
    exists_and_left]

theorem Steady.map (f : α → β) (hx : x.Steady) : (f <$> x).Steady :=
  hx.bind fun a => steady_pure (f a)

theorem steady_mapM {f : γ → Drawing α} (h : ∀ c, (f c).Steady) :
    ∀ l : List γ, (l.mapM f).Steady
  | [] => steady_pure []
  | c :: l => by
    rw [List.mapM_cons]
    exact (h c).bind fun a => (steady_mapM h l).bind fun as => steady_pure (a :: as)

/-- All drawings of a list come to something exactly if each of them does. -/
theorem outcome_mapM_ok {f : γ → Drawing α} (h : ∀ c, (f c).Steady) :
    ∀ {l : List γ} {as : List α}, (l.mapM f).outcome t = .ok as ↔
      List.Forall₂ (fun c a => (f c).outcome t = .ok a) l as
  | [], as => by
    rw [List.mapM_nil, outcome_pure, List.forall₂_nil_left_iff, Except.ok.injEq, eq_comm]
  | c :: l, as => by
    have rest := steady_mapM h l
    rw [List.mapM_cons, (h c).outcome_bind_ok fun a => rest.bind fun as => steady_pure (a :: as)]
    simp only [rest.outcome_bind_ok fun as => steady_pure (_ :: as), outcome_mapM_ok h]
    constructor
    · rintro ⟨a, ha, as', has, same⟩
      cases same
      exact .cons ha has
    · rintro (_ | ⟨ha, has⟩)
      exact ⟨_, ha, _, has, rfl⟩

theorem Steady.ite {c : Prop} [Decidable c] {y : Drawing α} (hx : x.Steady) (hy : y.Steady) :
    (if c then x else y).Steady := by
  split
  · exact hx
  · exact hy

end Drawing

open Drawing

theorem card_steady (src alt : Value) (type : String) : (card src alt type).Steady := by
  have looks : (modifyGet fun t : Tracker =>
      ((((t.track src alt type).observe src).1.map (·.status)).getD .failed,
        ((t.track src alt type).observe src).2) : Drawing ImageStatus).Steady := by
    refine ⟨fun t s same => ?_, fun t => ?_⟩
    · show Except.ok (((t.track src alt type).observe src).1.map (·.status) |>.getD .failed) =
        .ok (((s.track src alt type).observe src).1.map (·.status) |>.getD .failed)
      rw [Tracker.drawn_status, Tracker.drawn_status, same]
    · exact (Tracker.look_observe _ src).trans (Tracker.look_track t src alt type)
  unfold card
  dsimp only
  split
  · exact steady_throw_bind _ _
  · refine looks.bind fun status => ?_
    split
    · exact steady_pure _
    · exact steady_throw _

end Preview

/-! ## Blocks -/

open Preview Preview.Drawing

variable (c : Preview.Context)

theorem Preview.resolve_steady (url : String) : (c.resolve url).Steady := steady_ofExcept _ _

namespace Element

theorem Image.draw_steady (i : Image) : (i.draw c).Steady := by
  unfold Image.draw
  refine (resolve_steady c i.src).bind fun src => ?_
  dsimp only
  split
  · exact (resolve_steady c _).bind fun _ => steady_pure _
  · exact steady_pure _

theorem Link.draw_steady (l : Link) : (l.draw c).Steady :=
  (resolve_steady c l.href).bind fun _ => steady_pure _

theorem Badge.draw_steady (b : Badge) : (b.draw c).Steady := by
  unfold Badge.draw
  dsimp only
  split
  · exact (resolve_steady c _).bind fun _ => steady_pure _
  · exact steady_pure _

theorem Social.draw_steady (s : Social) : (s.draw c).Steady :=
  (resolve_steady c s.url).bind fun _ => steady_pure _

theorem Card.draw_steady (k : Card) : (k.draw c).Steady := by
  unfold Card.draw optionalLink
  refine Steady.bind ?_ fun link => steady_pure _
  split
  · exact (resolve_steady c _).bind fun _ => steady_pure _
  · exact steady_pure none

theorem Award.draw_steady (a : Award) : (a.draw c).Steady := by
  unfold Award.draw
  dsimp only
  split
  · exact (resolve_steady c _).bind fun _ => steady_pure _
  · exact steady_pure _

theorem Custom.draw_steady (b : Custom) : b.draw.Steady := by
  unfold Custom.draw
  split
  · exact (card_steady _ _ _).map some
  · dsimp only
    refine (steady_pure none).ite ((steady_pure _).ite (Steady.ite ?_ (steady_pure _)))
    exact (steady_ofExcept _ _).bind fun _ => steady_pure _

theorem drawMembers_steady {draw : α → Drawing Node} (h : ∀ a, (draw a).Steady)
    (members : List (Placed α)) : (drawMembers draw members).Steady :=
  steady_mapM (fun p : Placed α => h p.content) _

theorem draw_steady (e : Element) : (e.draw c).Steady := by
  cases e with
  | image e => exact (e.draw_steady c).map some
  | link e => exact (e.draw_steady c).map some
  | badge e => exact (e.draw_steady c).map some
  | social e => exact (e.draw_steady c).map some
  | card e => exact (e.draw_steady c).map some
  | award e => exact (e.draw_steady c).map some
  | statsCard e | graph e => exact (card_steady _ _ _).map some
  | custom e => exact e.draw_steady
  | badgeGroup e =>
    exact (drawMembers_steady (Badge.draw_steady c) e.members).bind fun nodes => steady_pure _
  | statGroup e =>
    exact (drawMembers_steady (fun s => steady_pure _) e.members).bind fun nodes => steady_pure _
  | socialGroup e =>
    exact (drawMembers_steady (Social.draw_steady c) e.members).bind fun nodes => steady_pure _
  | _ => exact steady_pure _

end Element

mutual

theorem Block.drawTree_steady : ∀ b : Block, (b.drawTree c).Steady
  | .element _ visible content => by
    unfold Block.drawTree
    exact (content.draw_steady c).ite (steady_pure none)
  | .stack _ visible layout children => by
    unfold Block.drawTree
    exact ((Block.drawAll_steady children).bind fun nodes => steady_pure _).ite (steady_pure none)
  | .list _ visible marker items => by
    unfold Block.drawTree
    exact ((Item.drawAll_steady marker items).bind fun nodes => steady_pure _).ite
      (steady_pure none)

theorem Block.drawAll_steady : ∀ bs : List Block, (Block.drawAll c bs).Steady
  | [] => steady_pure []
  | b :: bs => by
    unfold Block.drawAll
    exact (Block.drawTree_steady b).bind fun node =>
      (Block.drawAll_steady bs).bind fun nodes => steady_pure _

theorem Item.drawAll_steady (marker : ListMarker) : ∀ items : List Item,
    (Item.drawAll c marker items).Steady
  | [] => steady_pure []
  | .text content icon nested :: rest => by
    unfold Item.drawAll
    exact (Item.drawAll_steady marker nested).bind fun below =>
      (Item.drawAll_steady marker rest).bind fun nodes => (steady_pure _).ite (steady_pure _)
  | .block content icon nested :: rest => by
    unfold Item.drawAll
    refine (Item.drawAll_steady marker nested).bind fun below =>
      (Block.drawTree_steady content).bind fun node =>
        (Item.drawAll_steady marker rest).bind fun nodes => ?_
    cases node <;> exact steady_pure _

end

theorem Block.draw_steady (b : Block) : (b.draw c).Steady := by
  unfold Block.draw
  exact (steady_pure _).ite (b.drawTree_steady c)

theorem Preview.drawBlocks_steady : ∀ bs : List Block, (drawBlocks c bs).Steady
  | [] => steady_pure []
  | b :: bs => by
    unfold drawBlocks
    exact (b.draw_steady c).bind fun _ => (drawBlocks_steady bs).bind fun _ => steady_pure _

theorem Render.RenderedSection.draw_steady (s : Render.RenderedSection) : (s.draw c).Steady := by
  unfold RenderedSection.draw
  refine Steady.ite ?_ (steady_pure none)
  exact (drawBlocks_steady c s.blocks).bind fun _ => (steady_pure _).ite (steady_pure _)

theorem Render.Output.draw_steady (o : Render.Output) : (o.draw c).Steady :=
  (steady_mapM (RenderedSection.draw_steady c) o.sections).bind fun _ => steady_pure _

/-! ## What the parts of a block come to -/

section

variable {c : Preview.Context} {t : Tracker} {nodes : List Node} {node : Option Node}

theorem Block.drawTree_stack_ok {id : String} {layout : Layout} {children : List Block} :
    ((Block.stack id true layout children).drawTree c).outcome t = .ok node ↔
      ∃ nodes, (Block.drawAll c children).outcome t = .ok nodes ∧ node = arrange layout nodes := by
  unfold Block.drawTree
  rw [if_pos rfl, (Block.drawAll_steady c children).outcome_bind_ok fun _ => steady_pure _]
  simp [eq_comm]

theorem Block.drawTree_list_ok {id : String} {marker : ListMarker} {items : List Item} :
    ((Block.list id true marker items).drawTree c).outcome t = .ok node ↔
      ∃ nodes, (Item.drawAll c marker items).outcome t = .ok nodes ∧
        node = listOf marker nodes := by
  unfold Block.drawTree
  rw [if_pos rfl, (Item.drawAll_steady c marker items).outcome_bind_ok fun _ => steady_pure _]
  simp [eq_comm]

theorem Block.drawAll_cons_ok {b : Block} {bs : List Block} :
    (Block.drawAll c (b :: bs)).outcome t = .ok nodes ↔
      ∃ node more, (b.drawTree c).outcome t = .ok node ∧
        (Block.drawAll c bs).outcome t = .ok more ∧ nodes = node.toList ++ more := by
  rw [Block.drawAll, (b.drawTree_steady c).outcome_bind_ok fun _ =>
    (Block.drawAll_steady c bs).bind fun _ => steady_pure _]
  simp only [(Block.drawAll_steady c bs).outcome_bind_ok fun _ => steady_pure _]
  simp [eq_comm]

theorem Preview.drawBlocks_cons_ok {b : Block} {bs : List Block} :
    (drawBlocks c (b :: bs)).outcome t = .ok nodes ↔
      ∃ node more, (b.draw c).outcome t = .ok node ∧
        (drawBlocks c bs).outcome t = .ok more ∧ nodes = node.toList ++ more := by
  rw [drawBlocks, (b.draw_steady c).outcome_bind_ok fun _ =>
    (drawBlocks_steady c bs).bind fun _ => steady_pure _]
  simp only [(drawBlocks_steady c bs).outcome_bind_ok fun _ => steady_pure _]
  simp [eq_comm]

theorem Item.drawAll_text_ok {marker : ListMarker} {content : String} {icon : Option String}
    {nested rest : List Item} :
    (Item.drawAll c marker (.text content icon nested :: rest)).outcome t = .ok nodes ↔
      ∃ below more, (Item.drawAll c marker nested).outcome t = .ok below ∧
        (Item.drawAll c marker rest).outcome t = .ok more ∧
        nodes = if content.isEmpty then more
          else entry icon (.text (Inline.html content)) (listOf marker below) true :: more := by
  have ends (below more : List Node) : (if content.isEmpty then pure more
      else pure (entry icon (.text (Inline.html content)) (listOf marker below) true :: more) :
        Drawing (List Node)).Steady := (steady_pure _).ite (steady_pure _)
  rw [Item.drawAll, (Item.drawAll_steady c marker nested).outcome_bind_ok fun below =>
    (Item.drawAll_steady c marker rest).bind (ends below)]
  simp only [(Item.drawAll_steady c marker rest).outcome_bind_ok (ends _)]
  cases content.isEmpty <;> simp [eq_comm]

theorem Item.drawAll_block_ok {marker : ListMarker} {content : Block} {icon : Option String}
    {nested rest : List Item} :
    (Item.drawAll c marker (.block content icon nested :: rest)).outcome t = .ok nodes ↔
      ∃ below node more, (Item.drawAll c marker nested).outcome t = .ok below ∧
        (content.drawTree c).outcome t = .ok node ∧
        (Item.drawAll c marker rest).outcome t = .ok more ∧
        nodes = (node.map fun n => entry icon (.node n) (listOf marker below) false).toList
          ++ more := by
  rw [Item.drawAll]
  refine ((Item.drawAll_steady c marker nested).outcome_steps_ok (content.drawTree_steady c)
    (Item.drawAll_steady c marker rest) fun below node more => ?_).trans ?_
  · cases node <;> exact steady_pure _
  refine exists_congr fun below => exists_congr fun node => exists_congr fun more => ?_
  refine and_congr_right' (and_congr_right' (and_congr_right' ?_))
  cases node <;> exact ⟨fun h => (Except.ok.inj h).symm, fun h => congrArg Except.ok h.symm⟩

end

end ProfileReadme
