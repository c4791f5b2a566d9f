/-
Technologies in groups. Items are put under their categories one after the other, and at each point
the groups are a stable partition of the items so far: the categories stand in the order of their
first items, each once, and a group has the items of its category in the order of the list. The
section then shows a heading and a group of badges for each of them.
-/
import ProfileReadme.Proofs.Render.Entries
import Mathlib.Data.List.Induction
import Mathlib.Data.List.Nodup

namespace ProfileReadme.Render

/-! ## Groups -/

/-- The place of the first item of a category, behind all items if there is none. -/
def firstPlace (items : List TechItem) (category : String) : Nat :=
  (items.map (·.category)).idxOf category

/-- The items of a category, in their order. -/
def ofCategory (items : List TechItem) (category : String) : List TechItem :=
  items.filter (·.category = category)

/-- The groups of some items: a stable partition by category. -/
structure Grouping (items : List TechItem) (groups : List (String × List TechItem)) : Prop where
  order : groups.Pairwise fun g h => firstPlace items g.1 < firstPlace items h.1
  categories : ∀ category, category ∈ groups.map Prod.fst ↔ category ∈ items.map (·.category)
  members : ∀ g ∈ groups, g.2 = ofCategory items g.1
  all : (groups.flatMap Prod.snd).Perm items

variable {item : TechItem} {items : List TechItem} {groups : List (String × List TechItem)}

theorem Grouping.distinct (h : Grouping items groups) : (groups.map Prod.fst).Nodup := by
  rw [List.Nodup, List.pairwise_map]
  refine h.order.imp fun {g g'} before same => ?_
  rw [same] at before
  exact Nat.lt_irrefl _ before

/-- An item stands in one group only. -/
theorem Grouping.existsUnique (h : Grouping items groups) (hitem : item ∈ items) :
    ∃! g, g ∈ groups ∧ item ∈ g.2 := by
  have of_mem : ∀ g ∈ groups, item ∈ g.2 → item.category = g.1 := by
    intro g hg inGroup
    rw [h.members g hg] at inGroup
    simpa using (List.mem_filter.1 inGroup).2
  obtain ⟨g, hg, same⟩ := List.mem_map.1 ((h.categories _).2 (List.mem_map_of_mem hitem))
  refine ⟨g, ⟨hg, ?_⟩, ?_⟩
  · rw [h.members g hg]
    exact List.mem_filter.2 ⟨hitem, by simp [same]⟩
  · rintro g' ⟨hg', inGroup⟩
    exact List.inj_on_of_nodup_map h.distinct hg' hg ((of_mem g' hg' inGroup).symm.trans same.symm)

/-! ## One more item -/

theorem firstPlace_concat_of_mem {category : String} (h : category ∈ items.map (·.category)) :
    firstPlace (items ++ [item]) category = firstPlace items category := by
  rw [firstPlace, List.map_append, List.idxOf_append_of_mem h, firstPlace]

/-- A new category comes after those that are there. -/
theorem firstPlace_concat_new (h : item.category ∉ items.map (·.category)) {category : String}
    (known : category ∈ items.map (·.category)) :
    firstPlace (items ++ [item]) category < firstPlace (items ++ [item]) item.category := by
  rw [firstPlace_concat_of_mem known, firstPlace, firstPlace, List.map_append,
    List.idxOf_append_of_notMem h]
  have := List.idxOf_lt_length_of_mem known
  omega

theorem ofCategory_concat (category : String) : ofCategory (items ++ [item]) category =
    ofCategory items category ++ if item.category = category then [item] else [] := by
  unfold ofCategory
  rw [List.filter_append, List.filter_singleton]
  simp

theorem ofCategory_eq_nil {category : String} (h : category ∉ items.map (·.category)) :
    ofCategory items category = [] := by
  refine List.filter_eq_nil_iff.2 fun i hi same => h ?_
  exact List.mem_map.2 ⟨i, hi, of_decide_eq_true same⟩

theorem putUnder_new (h : item.category ∉ groups.map Prod.fst) :
    putUnder item groups = groups ++ [(item.category, [item])] := by
  induction groups with
  | nil => rfl
  | cons g groups ih =>
    rw [List.map_cons, List.mem_cons, not_or] at h
    rw [putUnder, if_neg (Ne.symm h.1), ih h.2]
    rfl

/-- A group with one more item at its end, if it is the item's. -/
def grown (item : TechItem) (g : String × List TechItem) : String × List TechItem :=
  (g.1, g.2 ++ if item.category = g.1 then [item] else [])

theorem grown_of_ne {g : String × List TechItem} (h : item.category ≠ g.1) : grown item g = g := by
  rw [grown, if_neg h, List.append_nil]

theorem putUnder_known (distinct : (groups.map Prod.fst).Nodup)
    (h : item.category ∈ groups.map Prod.fst) : putUnder item groups = groups.map (grown item) := by
  induction groups with
  | nil => cases h
  | cons g groups ih =>
    rw [List.map_cons, List.nodup_cons] at distinct
    rw [putUnder, List.map_cons]
    by_cases here : g.1 = item.category
    · have others : groups.map (grown item) = groups := by
        refine (List.map_congr_left fun g' hg' => grown_of_ne fun same => ?_).trans groups.map_id
        exact distinct.1 (here.trans same ▸ List.mem_map_of_mem hg')
      rw [if_pos here, others, grown, if_pos here.symm]
    · rw [if_neg here, grown_of_ne (Ne.symm here)]
      rcases List.mem_cons.1 h with same | later
      · exact absurd same.symm here
      · rw [ih distinct.2 later]

theorem putUnder_flatMap (item : TechItem) (groups : List (String × List TechItem)) :
    ((putUnder item groups).flatMap Prod.snd).Perm (item :: groups.flatMap Prod.snd) := by
  induction groups with
  | nil => exact .refl _
  | cons g groups ih =>
    rw [putUnder]
    split
    · simp only [List.flatMap_cons, List.append_assoc]
      exact List.perm_middle
    · exact (ih.append_left g.2).trans List.perm_middle

/-- The groups stay a stable partition when an item is put under its category. -/
theorem Grouping.putUnder (h : Grouping items groups) (item : TechItem) :
    Grouping (items ++ [item]) (putUnder item groups) := by
  have all : ((Render.putUnder item groups).flatMap Prod.snd).Perm (items ++ [item]) :=
    ((putUnder_flatMap item groups).trans (h.all.cons item)).trans
      (List.perm_append_singleton item items).symm
  have order : groups.Pairwise fun g g' =>
      firstPlace (items ++ [item]) g.1 < firstPlace (items ++ [item]) g'.1 := by
    refine h.order.imp_of_mem fun {g g'} hg hg' before => ?_
    rwa [firstPlace_concat_of_mem ((h.categories _).1 (List.mem_map_of_mem hg)),
      firstPlace_concat_of_mem ((h.categories _).1 (List.mem_map_of_mem hg'))]
  by_cases known : item.category ∈ groups.map Prod.fst
  · have here := (h.categories _).1 known
    rw [putUnder_known h.distinct known] at all ⊢
    refine ⟨?_, fun category => ?_, ?_, all⟩
    · exact List.pairwise_map.2 order
    · rw [List.map_map, List.map_append, List.mem_append]
      refine (h.categories category).trans ⟨.inl, ?_⟩
      rintro (old | new)
      · exact old
      · rwa [List.mem_singleton.1 new]
    · intro g' hg'
      obtain ⟨g, hg, rfl⟩ := List.mem_map.1 hg'
      rw [grown, ofCategory_concat, h.members g hg]
  · have new := mt (h.categories _).2 known
    rw [putUnder_new known] at all ⊢
    refine ⟨?_, fun category => ?_, ?_, all⟩
    · refine List.pairwise_append.2 ⟨order, List.pairwise_singleton _ _, ?_⟩
      intro g hg g' hg'
      rw [List.mem_singleton.1 hg']
      exact firstPlace_concat_new new ((h.categories _).1 (List.mem_map_of_mem hg))
    · rw [List.map_append, List.map_append, List.mem_append, List.mem_append, h.categories]
      rfl
    · intro g hg
      rw [ofCategory_concat]
      rcases List.mem_append.1 hg with old | last
      · have apart : item.category ≠ g.1 := fun same => known (same ▸ List.mem_map_of_mem old)
        rw [if_neg apart, List.append_nil, h.members g old]
      · rw [List.mem_singleton.1 last, if_pos rfl, ofCategory_eq_nil new]
        rfl

/-- The groups of a list are a stable partition of it. -/
theorem byCategory_grouping (items : List TechItem) : Grouping items (byCategory items) := by
  have start : Grouping [] [] := ⟨.nil, fun _ => .rfl, nofun, .refl _⟩
  induction items using List.reverseRecOn with
  | nil => exact start
  | append_singleton items item ih =>
    unfold byCategory at ih ⊢
    rw [List.foldl_append]
    exact ih.putUnder item

example : byCategory
    [{ name := "Lean", category := "language" }, { name := "Git", category := "tool" },
      { name := "Coq", category := "language" }] =
    [("language", [{ name := "Lean", category := "language" },
        { name := "Coq", category := "language" }]),
      ("tool", [{ name := "Git", category := "tool" }])] := by decide

/-! ## Sections -/

/-- What a block is, and what it shows. -/
def outline (b : Block) : BlockKind × List Exhibit := (b.kind, b.exhibits)

/-- What is shown of a category: a heading, and its items as badges in one group. -/
def headedGroup (c : TechStackConfig) (g : String × List TechItem) :
    List (BlockKind × List Exhibit) :=
  [(.heading, [.element <| .heading
      { value := Text.title g.1, level := .of 4 (.refl true), align := some .left }]),
    (.badgeGroup, g.2.map fun i => .element <| .badge
      { label := i.name, logo := some (logoName i.name), style := c.badgeStyle })]

open Making

theorem makes_outline (e : Element) :
    (element e : Build Block).Makes fun b => outline b = (e.kind, e.exhibits) :=
  Makes.after fun _ => makes_pure rfl

theorem makes_headedGroup (c : TechStackConfig) (g : String × List TechItem) :
    (do
      let title ← heading (Text.title g.1) (.of 4 (.refl true)) (some .left)
      let members ← g.2.mapM (techBadge c.badgeStyle)
      return [title, ← element (.badgeGroup { members, align := .left, gap := .sm })] :
        Build (List Block)).Makes fun blocks => blocks.map outline = headedGroup c g := by
  refine (makes_outline _).bind fun title htitle => ?_
  refine (makes_members .badge _ g.2).bind fun members same => ?_
  refine (makes_outline _).bind fun group hgroup => makes_pure ?_
  have badges : members.map (fun m => Exhibit.element (.badge m.content)) =
      (members.map Placed.content).map fun b => .element (.badge b) := by
    rw [List.map_map]
    rfl
  have shown : (Element.badgeGroup { members, align := .left, gap := .sm }).exhibits =
      members.map fun m => .element (.badge m.content) := rfl
  rw [List.map_cons, List.map_singleton, htitle, hgroup, shown, badges, same, List.map_map]
  rfl

/-- Technologies are put in groups. -/
def IsGrouped (d : TechStackData) (c : TechStackConfig) : Prop :=
  c.display = .badges ∧ d.groupByCategory = true ∧ c.categoryHeaders = true

theorem techStack_grouped {d : TechStackData} {c : TechStackConfig} (grouped : IsGrouped d c)
    (p : Profile) : (techStack d c p).Makes fun blocks =>
      blocks.map outline = (byCategory (own d.items p.techStack.items)).flatMap (headedGroup c) := by
  obtain ⟨display, byGroups, headed⟩ := grouped
  unfold techStack
  dsimp only
  split
  next empty =>
    rw [List.isEmpty_iff.1 empty]
    exact makes_pure rfl
  · rw [display]
    dsimp only
    rw [if_pos (by rw [byGroups, headed]; rfl)]
    refine (Makes.map_mapM (makes_headedGroup c) _).bind fun groups same => makes_pure ?_
    rw [List.map_flatten, same, List.flatMap_def]

/-- A section of technologies in groups is built, of a heading and a group of badges for each
category that an item has, in the order of the first items. The items that count are parted by
these groups: each group has the items of its category, in their order, and each item is in one. -/
theorem groups_built (id : String) (enabled : Bool) (order : Int) (title : Option String)
    {d : TechStackData} {c : TechStackConfig} (grouped : IsGrouped d c) (p : Profile) :
    ∃ blocks groups,
      Registry.usual.build
        { id, kind := .techStack, enabled, order, title, data := d, config := c } p = .ok blocks ∧
      blocks.map outline = groups.flatMap (headedGroup c) ∧
      Grouping (own d.items p.techStack.items) groups ∧
      ∀ item ∈ own d.items p.techStack.items, ∃! g, g ∈ groups ∧ item ∈ g.2 := by
  obtain ⟨blocks, built, same⟩ := built_makes
    (s := { id, kind := .techStack, enabled, order, title, data := d, config := c }) (p := p) rfl
    (techStack_grouped grouped p)
  have parted := byCategory_grouping (own d.items p.techStack.items)
  exact ⟨blocks, _, built, same, parted, fun item hitem => parted.existsUnique hitem⟩

/-- Technologies of a profile whose categories take turns. -/
def mixedTools : List TechItem :=
  [{ name := "Lean", category := "language" }, { name := "Git", category := "dev-tool" },
    { name := "Coq", category := "language" }, { name := "Lake", category := "dev-tool" }]

theorem mixedTools_grouped : IsGrouped { groupByCategory := true } {} ∧
    ∃ blocks groups,
      Registry.usual.build
        { id := "stack", kind := .techStack, data := { groupByCategory := true }, config := {} }
        { techStack := { items := mixedTools } } = .ok blocks ∧
      blocks.map outline = groups.flatMap (headedGroup {}) ∧ Grouping mixedTools groups ∧
      ∀ item ∈ mixedTools, ∃! g, g ∈ groups ∧ item ∈ g.2 := by
  have grouped : IsGrouped { groupByCategory := true } {} := ⟨rfl, rfl, rfl⟩
  exact ⟨grouped, groups_built "stack" true 0 none grouped _⟩

end ProfileReadme.Render
