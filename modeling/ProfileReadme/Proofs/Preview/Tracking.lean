/-
Which images a drawing tracks, and which of them it shows. Cards are tracked as they are drawn, each
source once. A list draws what is nested in an item before the item itself, and all the same if the
item then shows nothing: so images may be tracked, and waited for, that no part of the page shows.
-/
import ProfileReadme.Proofs.Preview.Cards
import ProfileReadme.Proofs.Preview.Settling

namespace ProfileReadme

open Preview Preview.Drawing

namespace Preview

/-! ## Sources -/

/-- The sources that are tracked, in the order in which they came. -/
def Tracker.sources (t : Tracker) : List Value := t.images.map (·.src)

/-- Whether a source is among those that are tracked. -/
def isTracked (tracked : List Value) (v : Value) : Bool := tracked.any (·.sameKey v)

/-- The sources that are not tracked already, as they come, each once. -/
def fresh (tracked : List Value) : List Value → List Value
  | [] => []
  | v :: vs => if isTracked tracked v then fresh tracked vs else v :: fresh (tracked ++ [v]) vs

variable {tracked vs ws : List Value} {v w : Value}

theorem fresh_append : ∀ (tracked vs ws : List Value),
    fresh tracked (vs ++ ws) = fresh tracked vs ++ fresh (tracked ++ fresh tracked vs) ws
  | tracked, [], ws => by
    rw [fresh, List.append_nil]
    rfl
  | tracked, v :: vs, ws => by
    rw [List.cons_append, fresh, fresh]
    split
    · exact fresh_append tracked vs ws
    · rw [fresh_append, List.cons_append, List.append_assoc]
      rfl

theorem isTracked_append : isTracked (vs ++ ws) v = (isTracked vs v || isTracked ws v) :=
  List.any_append

theorem mem_of_mem_fresh (h : v ∈ fresh tracked vs) : v ∈ vs ∧ isTracked tracked v = false := by
  induction vs generalizing tracked with
  | nil => cases h
  | cons w vs ih =>
    rw [fresh] at h
    split at h
    · exact (ih h).imp_left (List.mem_cons_of_mem w)
    next new =>
      rcases List.mem_cons.1 h with rfl | h
      · exact ⟨List.mem_cons_self .., Bool.eq_false_iff.2 new⟩
      · obtain ⟨mem, old⟩ := ih h
        rw [isTracked_append, Bool.or_eq_false_iff] at old
        exact ⟨List.mem_cons_of_mem w mem, old.1⟩

/-- What a page can write is no key of anything else. -/
theorem eq_of_sameKey {s : String} (text : Reader.text v = .ok s) (same : w.sameKey v = true) :
    w = v := by
  cases v with
  | text s' => exact Value.sameKey_text.1 same
  | bytes bs =>
    cases w with
    | real x => cases x <;> cases same
    | bytes bs' =>
      obtain rfl : bs' = bs := of_decide_eq_true same
      rfl
    | _ => cases same
  | _ => cases text

theorem mem_fresh {s : String} (text : Reader.text v = .ok s) (mem : v ∈ vs)
    (new : isTracked tracked v = false) : v ∈ fresh tracked vs := by
  induction vs generalizing tracked with
  | nil => cases mem
  | cons w vs ih =>
    rw [fresh]
    split
    next old =>
      rcases List.mem_cons.1 mem with rfl | mem
      · rw [old] at new
        cases new
      · exact ih mem new
    next =>
      by_cases same : w.sameKey v = true
      · rw [eq_of_sameKey text same]
        exact List.mem_cons_self ..
      · rcases List.mem_cons.1 mem with rfl | mem
        · exact List.mem_cons_self ..
        · refine List.mem_cons_of_mem w (ih mem ?_)
          rw [isTracked_append, new]
          simpa [isTracked] using same

example : fresh [.text "a"] [.text "c", .text "a", .text "b", .text "c"] =
    [.text "c", .text "b"] := by cbv

/-! ## Drawings -/

/-- A drawing that, if it returns, has tracked these sources, all of which a page can write. -/
def Drawing.Tracks (x : Drawing α) (vs : List Value) : Prop :=
  ∀ t a t', x.run t = (.ok a, t') →
    t'.sources = t.sources ++ fresh t.sources vs ∧ ∀ v ∈ vs, ∃ s, Reader.text v = .ok s

variable {x : Drawing α}

theorem tracks_pure (a : α) : (pure a : Drawing α).Tracks [] := by
  rintro t b t' hrun
  cases hrun
  exact ⟨(List.append_nil _).symm, nofun⟩

theorem Drawing.Tracks.bind {f : α → Drawing β} (hx : x.Tracks vs) (hf : ∀ a, (f a).Tracks ws) :
    (x >>= f).Tracks (vs ++ ws) := by
  intro t b t' hrun
  obtain ⟨a, s, ha, hb⟩ := bind_run_ok hrun
  obtain ⟨first, texts⟩ := hx t a s ha
  obtain ⟨second, texts'⟩ := hf a s b t' hb
  refine ⟨?_, List.forall_mem_append.2 ⟨texts, texts'⟩⟩
  rw [second, first, fresh_append, List.append_assoc]

/-- What comes after tracks nothing. -/
theorem Drawing.Tracks.before {f : α → Drawing β} (hx : x.Tracks vs) (hf : ∀ a, (f a).Tracks []) :
    (x >>= f).Tracks vs := by
  have both := hx.bind hf
  rwa [List.append_nil] at both

theorem Drawing.Tracks.map (hx : x.Tracks vs) (f : α → β) : (f <$> x).Tracks vs :=
  hx.before fun a => tracks_pure (f a)

theorem tracks_ofExcept (fault : ε → Fault) (r : Except ε α) : (ofExcept fault r).Tracks [] := by
  cases r with
  | ok a => exact tracks_pure a
  | error e => rintro t a t' hrun; cases hrun

theorem tracks_mapM {f : γ → Drawing α} {g : γ → List Value} (h : ∀ c, (f c).Tracks (g c)) :
    ∀ l : List γ, (l.mapM f).Tracks (l.flatMap g)
  | [] => tracks_pure []
  | c :: l => by
    rw [List.mapM_cons]
    exact (h c).bind fun a => (tracks_mapM h l).before fun as => tracks_pure _

theorem tracks_members {draw : α → Drawing Node} (h : ∀ a, (draw a).Tracks [])
    (members : List (Placed α)) : (drawMembers draw members).Tracks [] := by
  have tracks := tracks_mapM (g := fun _ => []) (fun p : Placed α => h p.content)
    (members.filter (·.visible))
  rwa [List.flatMap_eq_nil_iff.2 fun _ _ => rfl] at tracks

theorem tracks_resolve (c : Context) (url : String) : (c.resolve url).Tracks [] :=
  tracks_ofExcept .url _

theorem find?_isSome (t : Tracker) (src : Value) :
    (t.find? src).isSome = isTracked t.sources src := by
  unfold Tracker.find? isTracked Tracker.sources
  rw [List.any_map, Bool.eq_iff_iff, List.find?_isSome, List.any_eq_true]
  rfl

theorem sources_track (t : Tracker) (src alt : Value) (card : String) :
    (t.track src alt card).sources = t.sources ++ fresh t.sources [src] := by
  unfold Tracker.track
  rw [fresh, fresh, fresh, ← find?_isSome]
  cases t.find? src with
  | some i => exact (List.append_nil _).symm
  | none => exact List.map_append

/-- A card is tracked before it is drawn. -/
theorem card_tracks {src : Value} (there : src ≠ .null) (alt : Value) (type : String) :
    (card src alt type).Tracks [src] := by
  intro t n t' hrun
  have text := (card_returnsIff {} src alt type t).1 ⟨n, t', hrun⟩ src (List.mem_cons_self ..) there
  refine ⟨?_, List.forall_mem_singleton.2 text⟩
  unfold card at hrun
  rw [isKey_of_text fun _ => text] at hrun
  obtain ⟨status, t'', hstatus, hrest⟩ := bind_run_ok hrun
  cases hstatus
  dsimp only at hrest
  have same : t' = ((t.track src alt type).observe src).2 := by
    split at hrest <;> cases hrest
    rfl
  rw [same]
  exact (Tracker.update_sources (fun i => i.seen_src) _ src).trans (sources_track t src alt type)

end Preview

/-! ## Elements -/

namespace Element

variable (c : Context)

theorem Image.draw_tracks (i : Image) : (i.draw c).Tracks [] := by
  unfold Image.draw
  refine (tracks_resolve c i.src).before fun src => ?_
  dsimp only
  split
  · exact (tracks_resolve c _).before fun _ => tracks_pure _
  · exact tracks_pure _

theorem Badge.draw_tracks (b : Badge) : (b.draw c).Tracks [] := by
  unfold Badge.draw
  dsimp only
  split
  · exact (tracks_resolve c _).before fun _ => tracks_pure _
  · exact tracks_pure _

theorem Social.draw_tracks (s : Social) : (s.draw c).Tracks [] :=
  (tracks_resolve c s.url).before fun _ => tracks_pure _

theorem Card.draw_tracks (k : Card) : (k.draw c).Tracks [] := by
  have link : (optionalLink c k.url "🔗 Link").Tracks [] := by
    unfold optionalLink
    split
    · exact (tracks_resolve c _).before fun href => tracks_pure _
    · exact tracks_pure none
  exact link.before fun link => tracks_pure _

theorem Award.draw_tracks (a : Award) : (a.draw c).Tracks [] := by
  unfold Award.draw
  dsimp only
  split
  · exact (tracks_resolve c _).before fun href => tracks_pure _
  · exact tracks_pure _

theorem Custom.draw_tracks (e : Custom) : e.draw.Tracks (e.setting? "image_url").toList := by
  unfold Custom.draw
  cases found : e.setting? "image_url" with
  | some src => exact (card_tracks (Custom.setting_ne_null found) _ _).map some
  | none =>
    dsimp only
    split
    · exact tracks_pure none
    · split
      · exact tracks_pure _
      · split
        · exact (tracks_ofExcept .markup _).before fun safe => tracks_pure _
        · exact tracks_pure _

/-- An element tracks the cards that it is drawn as. -/
theorem draw_tracks (e : Element) : (e.draw c).Tracks e.cards := by
  cases e with
  | image e => exact (e.draw_tracks c).map some
  | link e => exact ((tracks_resolve c e.href).before fun href => tracks_pure _).map some
  | badge e => exact (e.draw_tracks c).map some
  | social e => exact (e.draw_tracks c).map some
  | card e => exact (e.draw_tracks c).map some
  | award e => exact (e.draw_tracks c).map some
  | statsCard e => exact (card_tracks Value.noConfusion _ _).map some
  | graph e => exact (card_tracks Value.noConfusion _ _).map some
  | custom e => exact e.draw_tracks
  | badgeGroup e =>
    exact (tracks_members (Badge.draw_tracks c) e.members).before fun nodes => tracks_pure _
  | statGroup e =>
    exact (tracks_members (fun s => tracks_pure s.draw) e.members).before fun nodes =>
      tracks_pure _
  | socialGroup e =>
    exact (tracks_members (Social.draw_tracks c) e.members).before fun nodes => tracks_pure _
  | _ => exact tracks_pure _

end Element

/-! ## Blocks -/

mutual

/-- The sources of the cards of a block in the order in which they are drawn: what is nested in an
item before its content, and whether the item is shown or not. -/
def Block.cardsDrawn : Block → List Value
  | .element _ visible content => if visible then content.cards else []
  | .stack _ visible _ children => if visible then Block.cardsDrawnAll children else []
  | .list _ visible _ items => if visible then Item.cardsDrawnAll items else []

def Block.cardsDrawnAll : List Block → List Value
  | [] => []
  | b :: bs => b.cardsDrawn ++ Block.cardsDrawnAll bs

def Item.cardsDrawnAll : List Item → List Value
  | [] => []
  | .text _ _ nested :: rest => Item.cardsDrawnAll nested ++ Item.cardsDrawnAll rest
  | .block content _ nested :: rest =>
    Item.cardsDrawnAll nested ++ (content.cardsDrawn ++ Item.cardsDrawnAll rest)

end

mutual

theorem Block.drawTree_tracks (c : Context) : ∀ b : Block, (b.drawTree c).Tracks b.cardsDrawn
  | .element _ visible content => by
    unfold Block.drawTree Block.cardsDrawn
    cases visible with
    | false => exact tracks_pure none
    | true => exact content.draw_tracks c
  | .stack _ visible layout children => by
    unfold Block.drawTree Block.cardsDrawn
    cases visible with
    | false => exact tracks_pure none
    | true => exact (Block.drawAll_tracks c children).before fun nodes => tracks_pure _
  | .list _ visible marker items => by
    unfold Block.drawTree Block.cardsDrawn
    cases visible with
    | false => exact tracks_pure none
    | true => exact (Item.drawAll_tracks c marker items).before fun nodes => tracks_pure _

theorem Block.drawAll_tracks (c : Context) : ∀ bs : List Block,
    (Block.drawAll c bs).Tracks (Block.cardsDrawnAll bs)
  | [] => by unfold Block.drawAll Block.cardsDrawnAll; exact tracks_pure []
  | b :: bs => by
    unfold Block.drawAll Block.cardsDrawnAll
    exact (Block.drawTree_tracks c b).bind fun node =>
      (Block.drawAll_tracks c bs).before fun nodes => tracks_pure _

theorem Item.drawAll_tracks (c : Context) (marker : ListMarker) : ∀ items : List Item,
    (Item.drawAll c marker items).Tracks (Item.cardsDrawnAll items)
  | [] => by unfold Item.drawAll Item.cardsDrawnAll; exact tracks_pure []
  | .text content icon nested :: rest => by
    unfold Item.drawAll Item.cardsDrawnAll
    refine (Item.drawAll_tracks c marker nested).bind fun below =>
      (Item.drawAll_tracks c marker rest).before fun nodes => ?_
    split <;> exact tracks_pure _
  | .block content icon nested :: rest => by
    unfold Item.drawAll Item.cardsDrawnAll
    refine (Item.drawAll_tracks c marker nested).bind fun below =>
      (Block.drawTree_tracks c content).bind fun node =>
        (Item.drawAll_tracks c marker rest).before fun nodes => ?_
    split <;> exact tracks_pure _

end

/-! ## Cards that are drawn and not shown -/

mutual

/-- The sources of the cards of a block that are drawn and then not shown: an item that shows
nothing is left out with all that is nested in it. -/
def Block.cardsDropped : Block → List Value
  | .element .. => []
  | .stack _ visible _ children => if visible then Block.cardsDroppedAll children else []
  | .list _ visible _ items => if visible then Item.cardsDroppedAll items else []

def Block.cardsDroppedAll : List Block → List Value
  | [] => []
  | b :: bs => b.cardsDropped ++ Block.cardsDroppedAll bs

def Item.cardsDroppedAll : List Item → List Value
  | [] => []
  | .text content _ nested :: rest =>
    (if content.isEmpty then Item.cardsDrawnAll nested else Item.cardsDroppedAll nested) ++
      Item.cardsDroppedAll rest
  | .block content _ nested :: rest =>
    (if content.shows Element.isDrawn then content.cardsDropped ++ Item.cardsDroppedAll nested
      else content.cardsDrawn ++ Item.cardsDrawnAll nested) ++ Item.cardsDroppedAll rest

end

/-- Two lists, each parted in two, that are parted together. -/
theorem perm_parted {all all' kept kept' left left' : List α} (h : all.Perm (kept ++ left))
    (h' : all'.Perm (kept' ++ left')) :
    (all ++ all').Perm ((kept ++ kept') ++ (left ++ left')) := by
  refine (h.append h').trans ?_
  rw [List.append_assoc, List.append_assoc, ← List.append_assoc left,
    ← List.append_assoc kept']
  exact .append_left kept (.append_right left' List.perm_append_comm)

mutual

theorem Block.cardsDrawn_perm : ∀ b : Block, b.cardsDrawn.Perm (b.cardsShown ++ b.cardsDropped)
  | .element _ visible content => by
    unfold Block.cardsDrawn Block.cardsShown Block.cardsDropped
    rw [List.append_nil]
  | .stack _ visible _ children => by
    unfold Block.cardsDrawn Block.cardsShown Block.cardsDropped
    cases visible with
    | false => exact .nil
    | true => exact Block.cardsDrawnAll_perm children
  | .list _ visible _ items => by
    unfold Block.cardsDrawn Block.cardsShown Block.cardsDropped
    cases visible with
    | false => exact .nil
    | true => exact Item.cardsDrawnAll_perm items

theorem Block.cardsDrawnAll_perm : ∀ bs : List Block,
    (Block.cardsDrawnAll bs).Perm (Block.cardsShownAll bs ++ Block.cardsDroppedAll bs)
  | [] => .nil
  | b :: bs => by
    unfold Block.cardsDrawnAll Block.cardsShownAll Block.cardsDroppedAll
    exact perm_parted b.cardsDrawn_perm (Block.cardsDrawnAll_perm bs)

theorem Item.cardsDrawnAll_perm : ∀ items : List Item,
    (Item.cardsDrawnAll items).Perm (Item.cardsShownAll items ++ Item.cardsDroppedAll items)
  | [] => .nil
  | .text content _ nested :: rest => by
    unfold Item.cardsDrawnAll Item.cardsShownAll Item.cardsDroppedAll
    refine perm_parted ?_ (Item.cardsDrawnAll_perm rest)
    cases content.isEmpty with
    | true => exact .refl _
    | false => exact Item.cardsDrawnAll_perm nested
  | .block content _ nested :: rest => by
    unfold Item.cardsDrawnAll Item.cardsShownAll Item.cardsDroppedAll
    rw [← List.append_assoc]
    refine perm_parted (List.perm_append_comm.trans ?_) (Item.cardsDrawnAll_perm rest)
    cases content.shows Element.isDrawn with
    | true => exact perm_parted content.cardsDrawn_perm (Item.cardsDrawnAll_perm nested)
    | false => exact .refl _

end

/-! ## Lists without cards below their items -/

mutual

/-- No card is nested in an item of a list, in the block or below it. -/
def Block.NestsNoCards : Block → Prop
  | .element .. => True
  | .stack _ _ _ children => Block.NestNoCards children
  | .list _ _ _ items => Item.NestNoCards items

def Block.NestNoCards : List Block → Prop
  | [] => True
  | b :: bs => b.NestsNoCards ∧ Block.NestNoCards bs

def Item.NestNoCards : List Item → Prop
  | [] => True
  | .text _ _ nested :: rest => Item.cardsDrawnAll nested = [] ∧ Item.NestNoCards rest
  | .block content _ nested :: rest =>
    Item.cardsDrawnAll nested = [] ∧ content.NestsNoCards ∧ Item.NestNoCards rest

end

theorem Element.cards_hidden {e : Element} (h : e.isDrawn = false) : e.cards = [] := by
  cases e with
  | statsCard | graph => simp [isDrawn, isVacuous] at h
  | custom e =>
    have bare : (e.setting? "image_url").isSome = false := by
      simp only [isDrawn, isVacuous, isGhost] at h
      cases hc : e.content.isEmpty <;> simp_all
    simpa [cards] using bare
  | _ => rfl

mutual

/-- A block that shows nothing shows no cards. -/
theorem Block.cardsShown_hidden : ∀ b : Block, b.shows Element.isDrawn = false → b.cardsShown = []
  | .element _ visible content, h => by
    unfold Block.cardsShown
    cases visible with
    | false => rfl
    | true => exact Element.cards_hidden (by simpa [Block.shows] using h)
  | .stack _ visible _ children, h => by
    unfold Block.cardsShown
    cases visible with
    | false => rfl
    | true => exact Block.cardsShownAll_hidden children (by simpa [Block.shows] using h)
  | .list _ visible _ items, h => by
    unfold Block.cardsShown
    cases visible with
    | false => rfl
    | true => exact Item.cardsShownAll_hidden items (by simpa [Block.shows] using h)

theorem Block.cardsShownAll_hidden : ∀ bs : List Block,
    Block.anyShows Element.isDrawn bs = false → Block.cardsShownAll bs = []
  | [], _ => rfl
  | b :: bs, h => by
    rw [Block.anyShows, Bool.or_eq_false_iff] at h
    rw [Block.cardsShownAll, b.cardsShown_hidden h.1, Block.cardsShownAll_hidden bs h.2]
    rfl

theorem Item.cardsShownAll_hidden : ∀ items : List Item,
    Item.anyShows Element.isDrawn items = false → Item.cardsShownAll items = []
  | [], _ => rfl
  | .text content _ nested :: rest, h => by
    rw [Item.anyShows, Bool.or_eq_false_iff, Bool.not_eq_false'] at h
    rw [Item.cardsShownAll, if_pos h.1, Item.cardsShownAll_hidden rest h.2]
    rfl
  | .block content _ nested :: rest, h => by
    rw [Item.anyShows, Bool.or_eq_false_iff] at h
    rw [Item.cardsShownAll, if_neg (by simp [h.1]), Item.cardsShownAll_hidden rest h.2]
    rfl

end

theorem Item.cardsShownAll_undrawn {items : List Item} (h : Item.cardsDrawnAll items = []) :
    Item.cardsShownAll items = [] := by
  have perm := Item.cardsDrawnAll_perm items
  rw [h, List.nil_perm, List.append_eq_nil_iff] at perm
  exact perm.1

mutual

/-- Without cards below items, cards are drawn in the order in which they are shown. -/
theorem Block.cardsDrawn_inTurn : ∀ b : Block, b.NestsNoCards → b.cardsDrawn = b.cardsShown
  | .element _ visible content, _ => rfl
  | .stack _ visible _ children, h => by
    unfold Block.cardsDrawn Block.cardsShown
    rw [Block.cardsDrawnAll_inTurn children (by simpa [Block.NestsNoCards] using h)]
  | .list _ visible _ items, h => by
    unfold Block.cardsDrawn Block.cardsShown
    rw [Item.cardsDrawnAll_inTurn items (by simpa [Block.NestsNoCards] using h)]

theorem Block.cardsDrawnAll_inTurn : ∀ bs : List Block,
    Block.NestNoCards bs → Block.cardsDrawnAll bs = Block.cardsShownAll bs
  | [], _ => rfl
  | b :: bs, h => by
    unfold Block.NestNoCards at h
    rw [Block.cardsDrawnAll, Block.cardsShownAll, b.cardsDrawn_inTurn h.1,
      Block.cardsDrawnAll_inTurn bs h.2]

theorem Item.cardsDrawnAll_inTurn : ∀ items : List Item,
    Item.NestNoCards items → Item.cardsDrawnAll items = Item.cardsShownAll items
  | [], _ => rfl
  | .text content _ nested :: rest, h => by
    unfold Item.NestNoCards at h
    rw [Item.cardsDrawnAll, Item.cardsShownAll, Item.cardsShownAll_undrawn h.1, h.1, ite_self,
      Item.cardsDrawnAll_inTurn rest h.2]
  | .block content _ nested :: rest, h => by
    unfold Item.NestNoCards at h
    rw [Item.cardsDrawnAll, Item.cardsShownAll, Item.cardsShownAll_undrawn h.1, h.1,
      content.cardsDrawn_inTurn h.2.1, Item.cardsDrawnAll_inTurn rest h.2.2, List.append_nil]
    cases shows : content.shows Element.isDrawn with
    | true => rfl
    | false => rw [content.cardsShown_hidden shows]; rfl

end

/-! ## What a drawn block tracks -/

/-- What a block that is drawn has tracked, and how it stands to what is shown. -/
structure Block.Tracked (b : Block) (t t' : Tracker) (node : Option Node) : Prop where
  /-- The sources of all cards that are drawn, as they come, if they are not tracked already. -/
  sources : t'.sources = t.sources ++ fresh t.sources b.cardsDrawn
  /-- The tree has the cards that are shown, and no others. -/
  shown : AreWritten b.cardsShown (drawnCards node)
  parted : b.cardsDrawn.Perm (b.cardsShown ++ b.cardsDropped)
  /-- What is newly tracked is shown, unless a card is dropped whose source is new and not that of
  another card. -/
  shown_iff : (∀ v ∈ fresh t.sources b.cardsDrawn, v ∈ b.cardsShown) ↔
    ∀ v ∈ b.cardsDropped, isTracked t.sources v = true ∨ v ∈ b.cardsShown
  inTurn : b.NestsNoCards → t'.sources = t.sources ++ fresh t.sources b.cardsShown
  nothing_iff : node = none →
    (t'.sources = t.sources ↔ ∀ v ∈ b.cardsDropped, isTracked t.sources v = true)
  pending : ∀ i ∈ t'.pending.1, i.src ∈ t.sources ∨ i.src ∈ b.cardsShown ∨ i.src ∈ b.cardsDropped

theorem Preview.Tracker.src_of_pending {t : Tracker} {i : CardImage} (h : i ∈ t.pending.1) :
    i.src ∈ t.sources := by
  obtain ⟨h, -⟩ := List.mem_filter.1 h
  obtain ⟨j, hj, rfl⟩ := List.mem_map.1 h
  rw [CardImage.seen_src]
  exact List.mem_map_of_mem hj

/-- Whatever a tracker holds, a block that is drawn tracks the cards that it draws; these are the
cards in its tree and those that are dropped with items of lists. So all that it tracks is shown if
no card is nested in an item, and then in the order of the tree. -/
theorem Block.draw_tracked (c : Context) (hc : c.asMarkdown = false) (b : Block) {t t' : Tracker}
    {node : Option Node} (h : (b.draw c).run t = (.ok node, t')) : b.Tracked t t' node := by
  have run : (b.drawTree c).run t = (.ok node, t') := by
    unfold Block.draw at h
    rwa [hc, if_neg Bool.false_ne_true] at h
  obtain ⟨sources, texts⟩ := Block.drawTree_tracks c b t node t' run
  have shown : AreWritten b.cardsShown (drawnCards node) := (Block.drawTree_cards c b).of_run run
  have mem_iff (v : Value) : v ∈ b.cardsDrawn ↔ v ∈ b.cardsShown ∨ v ∈ b.cardsDropped := by
    rw [b.cardsDrawn_perm.mem_iff, List.mem_append]
  have shown_iff : (∀ v ∈ fresh t.sources b.cardsDrawn, v ∈ b.cardsShown) ↔
      ∀ v ∈ b.cardsDropped, isTracked t.sources v = true ∨ v ∈ b.cardsShown := by
    constructor
    · intro all v hv
      have drawn := (mem_iff v).2 (.inr hv)
      obtain ⟨s, text⟩ := texts v drawn
      by_cases old : isTracked t.sources v = true
      · exact .inl old
      · exact .inr (all v (mem_fresh text drawn (Bool.eq_false_iff.2 old)))
    · intro each v hv
      obtain ⟨drawn, new⟩ := mem_of_mem_fresh hv
      rcases (mem_iff v).1 drawn with hs | hd
      · exact hs
      · exact (each v hd).resolve_left (by simp [new])
  refine ⟨sources, shown, b.cardsDrawn_perm, shown_iff, fun inTurn => ?_, fun none => ?_,
    fun i hi => ?_⟩
  · rw [sources, b.cardsDrawn_inTurn inTurn]
  · -- nothing is shown, so all cards that are drawn are dropped
    rw [none] at shown
    have bare : b.cardsShown = [] := List.forall₂_nil_right_iff.1 shown
    rw [bare] at shown_iff
    simpa [sources, List.eq_nil_iff_forall_not_mem] using shown_iff
  · have old := Tracker.src_of_pending hi
    rw [sources, List.mem_append] at old
    exact old.imp_right fun new => (mem_iff _).1 (mem_of_mem_fresh new).1

/-- A phrase that is not shown, with a card below it. -/
def hiddenPhrase : Block :=
  .list "l" true .unordered
    [.block (.element "h" false (.text { value := "hidden" })) none
      [.block (.element "s" true (.statsCard { username := "me" })) none []]]

theorem hiddenPhrase_draws :
    (hiddenPhrase.draw {}).run {} = (.ok none, ((hiddenPhrase.draw {}).run {}).2) := by
  obtain ⟨node, t', run⟩ := (hiddenPhrase.draw_returnsIff {} {}).2
    (.inr (by simp [hiddenPhrase, Block.demands, Item.demandsAll, Element.demands]))
  have bare : node.isSome = false := (Block.drawTree_isSome {} hiddenPhrase).of_run run
  rw [run]
  cases node with
  | none => rfl
  | some n => cases bare

theorem hiddenPhrase_tracked : ∃ t', (hiddenPhrase.draw {}).run {} = (.ok none, t') ∧
    hiddenPhrase.Tracked {} t' none :=
  ⟨_, hiddenPhrase_draws, Block.draw_tracked {} rfl hiddenPhrase hiddenPhrase_draws⟩

/-- A card is tracked, and waited for, that is nowhere on the page. -/
theorem hidden_card_pending : ∃ t' i, (hiddenPhrase.draw {}).run {} = (.ok none, t') ∧
    t'.pending.1 = [i] ∧ i.src = .text (Element.StatsCard.imageUrl { username := "me" }) := by
  have waiting : ((hiddenPhrase.draw {}).run {}).2.pending.1.length = 1 := by decide +kernel
  obtain ⟨i, hi⟩ := List.length_eq_one_iff.1 waiting
  refine ⟨_, i, hiddenPhrase_draws, hi, ?_⟩
  have known := Tracker.src_of_pending (hi ▸ List.mem_singleton_self i)
  rw [(Block.drawTree_tracks {} hiddenPhrase {} none _ hiddenPhrase_draws).1] at known
  exact List.mem_singleton.1 known

end ProfileReadme
