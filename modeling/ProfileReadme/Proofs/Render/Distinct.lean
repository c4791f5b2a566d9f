/-
When all ids on a page are distinct. An id is a scope, a kind and a number with dashes in between;
the number is what stands after the last dash, but a dash may be part of a scope and of the name of
a kind, so two sections can come to the same id. Only social links and plain links do: the name of
the one kind ends as the name of the other, after a dash.
-/
import ProfileReadme.Proofs.Number.Digits
import ProfileReadme.Proofs.Outcome
import ProfileReadme.Proofs.Render.Failing
import ProfileReadme.Proofs.Render.Labels
import ProfileReadme.Proofs.Render.Misfits
import ProfileReadme.Proofs.Text.Join
import Mathlib.Data.List.Pairwise

namespace ProfileReadme

/-! ## Ids taken apart -/

namespace Numbering

variable {scope scope' : String} {k k' : BlockKind} {i i' : Nat}

theorem toString_toList (n : Nat) : (toString n).toList = Decimal.digitChars n := by
  rw [Nat.toString_eq_repr, Nat.toList_repr, Decimal.digitChars]

theorem dash_not_mem_digitChars (n : Nat) : '-' ∉ Decimal.digitChars n := by
  intro dash
  have digit := Decimal.isDigit_of_mem_digitChars dash
  exact absurd digit (by decide)

theorem idOf_toList (scope : String) (k : BlockKind) (i : Nat) : (idOf scope k i).toList =
    (scope.toList ++ '-' :: (Named.name k).toList) ++ '-' :: Decimal.digitChars i := by
  unfold idOf
  simp only [String.toList_append, toString_toList, List.append_assoc]
  rfl

/-- The number of an id is what stands after its last dash. -/
theorem idOf_eq (h : idOf scope k i = idOf scope' k' i') : i = i' ∧
    scope.toList ++ '-' :: (Named.name k).toList =
      scope'.toList ++ '-' :: (Named.name k').toList := by
  have chars := congrArg String.toList h
  rw [idOf_toList, idOf_toList] at chars
  obtain ⟨front, digits⟩ :=
    Text.cut_last (dash_not_mem_digitChars i) (dash_not_mem_digitChars i') chars
  refine ⟨?_, front⟩
  rw [← Decimal.ofDigits_digitChars i, digits, Decimal.ofDigits_digitChars]

/-- The ids of one scope are distinct. -/
theorem nodup_labels (n : Numbering) (ks : List BlockKind) :
    ((n.labels ks).map Prod.snd).Nodup := by
  rw [List.nodup_iff_getElem?_ne_getElem?]
  intro i j lt bound same
  unfold labels at bound same
  rw [List.length_map, List.length_mapIdx] at bound
  simp only [List.getElem?_map, List.getElem?_mapIdx, List.getElem?_eq_getElem bound,
    List.getElem?_eq_getElem (lt.trans bound), Option.map_some] at same
  have number := (idOf_eq (Option.some.inj same)).1
  omega

/-- Of the kinds that sections are made of, one alone has a name that ends, after a dash, as that of
another. No section is made of cards, as which two other kinds end. -/
theorem name_suffix (hk : k ≠ .card) (hk' : k' ≠ .card)
    (h : '-' :: (Named.name k').toList <:+ (Named.name k).toList) : k = .social ∧ k' = .link := by
  have mem (k : BlockKind) : k ∈ (Named.all : List BlockKind) :=
    List.mem_of_find?_eq_some (Named.Lawful.find?_name k)
  have all : ∀ k ∈ (Named.all : List BlockKind), ∀ k' ∈ (Named.all : List BlockKind),
      k ≠ .card → k' ≠ .card → '-' :: (Named.name k').toList <:+ (Named.name k).toList →
        k = .social ∧ k' = .link := by
    decide +kernel
  exact all k (mem k) k' (mem k') hk hk' h

theorem clash_of_longer (hk : k ≠ .card) (hk' : k' ≠ .card) {more : List Char}
    (longer : scope'.toList = scope.toList ++ more) (ne : scope ≠ scope')
    (rest : '-' :: (Named.name k).toList = more ++ '-' :: (Named.name k').toList) :
    k = .social ∧ k' = .link ∧ scope' = scope ++ "-social" := by
  cases more with
  | nil => exact absurd (String.toList_inj.1 (by rw [longer, List.append_nil])) ne
  | cons c more =>
    obtain ⟨rfl, name⟩ := List.cons.inj rest
    obtain ⟨rfl, rfl⟩ := name_suffix hk hk' ⟨more, name.symm⟩
    have taken : (Named.name BlockKind.social).toList =
        "social".toList ++ '-' :: (Named.name BlockKind.link).toList := rfl
    have social : "social".toList = more := List.append_cancel_right (taken.symm.trans name)
    refine ⟨rfl, rfl, String.toList_inj.1 ?_⟩
    rw [longer, ← social, String.toList_append]
    rfl

/-- Two scopes come to one id only with a social link in the one, and in the other, whose name is
longer by that much, a link of the same number. -/
theorem idOf_clash (ne : scope ≠ scope') (hk : k ≠ .card) (hk' : k' ≠ .card)
    (h : idOf scope k i = idOf scope' k' i') : i = i' ∧
      ((k = .social ∧ k' = .link ∧ scope' = scope ++ "-social") ∨
        (k' = .social ∧ k = .link ∧ scope = scope' ++ "-social")) := by
  obtain ⟨same, front⟩ := idOf_eq h
  refine ⟨same, ?_⟩
  rcases List.append_eq_append_iff.1 front with ⟨more, longer, rest⟩ | ⟨more, longer, rest⟩
  · exact .inl (clash_of_longer hk hk' longer ne rest)
  · exact .inr (clash_of_longer hk' hk longer ne.symm rest)

theorem idOf_social (scope : String) (i : Nat) :
    idOf scope .social i = idOf (scope ++ "-social") .link i := by
  unfold idOf
  simp only [String.append_assoc]
  rfl

end Numbering

namespace Render

/-! ## The ids of one section -/

/-- The blocks of a page, with all that is nested in them. -/
def Output.blocks (out : Output) : List Block := out.sections.flatMap fun s => Block.walkAll s.blocks

/-- The ids of the blocks that a section shows. -/
def shownIds (p : Profile) (s : Section) : List String :=
  if s.enabled then
    match standard s p with
    | .ok blocks => (Block.walkAll blocks).map Block.id
    | .error _ => []
  else []

theorem card_not_mem_blockKinds (k : SectionKind) : .card ∉ k.blockKinds := by
  cases k <;> decide

/-- The blocks that a section is built of have the labels of its trace. -/
theorem standard_labels {s : Section} {p : Profile} {blocks : List Block}
    (h : standard s p = .ok blocks) : ∃ ks, Traced s.kind s.data s.config p ks ∧
      (Block.labelsAll blocks).Perm (({ scope := s.id } : Numbering).labels ks) := by
  unfold standard at h
  obtain ⟨⟨made, n⟩, hrun, rfl⟩ := map_eq_ok h
  obtain ⟨ks, traced, -, perm⟩ := build_adds s.kind s.data s.config p _ _ _ hrun
  exact ⟨ks, traced, perm⟩

variable {p : Profile} {s s' : Section}

/-- A section shows nothing, or blocks of a trace. -/
theorem shownIds_cases (p : Profile) (s : Section) :
    (shownIds p s = [] ∧ (s.enabled = true → ∃ f, standard s p = .error f)) ∨
    (s.enabled = true ∧ ∃ ks, Traced s.kind s.data s.config p ks ∧
      (shownIds p s).Perm ((({ scope := s.id } : Numbering).labels ks).map Prod.snd)) := by
  unfold shownIds
  cases enabled : s.enabled with
  | false => exact .inl ⟨rfl, fun h => by cases h⟩
  | true =>
    cases built : standard s p with
    | error f => exact .inl ⟨rfl, fun _ => ⟨f, rfl⟩⟩
    | ok blocks =>
      obtain ⟨ks, traced, perm⟩ := standard_labels built
      refine .inr ⟨rfl, ks, traced, ?_⟩
      have ids := perm.map Prod.snd
      rwa [Block.labelsAll, List.map_map] at ids

theorem shownIds_nodup (p : Profile) (s : Section) : (shownIds p s).Nodup := by
  rcases shownIds_cases p s with ⟨none, -⟩ | ⟨-, ks, -, perm⟩
  · rw [none]
    exact List.nodup_nil
  · exact perm.nodup_iff.2 (Numbering.nodup_labels _ ks)

/-- An id that a section shows is one of its name, a kind of its trace and a number. -/
theorem mem_shownIds {id : String} (h : id ∈ shownIds p s) : s.enabled = true ∧ ∃ ks i k,
    Traced s.kind s.data s.config p ks ∧ ks[i]? = some k ∧ id = Numbering.idOf s.id k (i + 1) := by
  rcases shownIds_cases p s with ⟨none, -⟩ | ⟨enabled, ks, traced, perm⟩
  · rw [none] at h
    cases h
  · obtain ⟨l, hl, rfl⟩ := List.mem_map.1 (perm.mem_iff.1 h)
    obtain ⟨i, at_, id⟩ := (Numbering.mem_labels _).1 hl
    refine ⟨enabled, ks, i, l.1, traced, at_, ?_⟩
    rw [id]
    simp

/-! ## Two sections -/

/-- The one section shows social links and the other, whose name is longer by `-social`, a link that
comes so early that its number is among those of the social links. -/
structure Clash (p : Profile) (s s' : Section) : Prop where
  shown : s.enabled = true
  shown' : s'.enabled = true
  name : s'.id = s.id ++ "-social"
  early : ∃ first ∈ linkOffset? s'.kind s'.data s'.config p, first < socialCount s.kind s.data p

instance : Decidable (Clash p s s') :=
  decidable_of_iff (s.enabled = true ∧ s'.enabled = true ∧ s'.id = s.id ++ "-social" ∧
      ∃ first ∈ linkOffset? s'.kind s'.data s'.config p, first < socialCount s.kind s.data p)
    ⟨fun ⟨shown, shown', name, early⟩ => ⟨shown, shown', name, early⟩,
      fun clash => ⟨clash.shown, clash.shown', clash.name, clash.early⟩⟩

/-- An id that two sections show comes of a clash. -/
theorem Clash.of_shared {id : String} (ne : s.id ≠ s'.id) (h : id ∈ shownIds p s)
    (h' : id ∈ shownIds p s') : Clash p s s' ∨ Clash p s' s := by
  obtain ⟨shown, ks, i, k, traced, at_, rfl⟩ := mem_shownIds h
  obtain ⟨shown', ks', i', k', traced', at_', same⟩ := mem_shownIds h'
  have plain : k ≠ .card := by
    rintro rfl
    exact card_not_mem_blockKinds _ (traced.kinds _ (List.mem_of_getElem? at_))
  have plain' : k' ≠ .card := by
    rintro rfl
    exact card_not_mem_blockKinds _ (traced'.kinds _ (List.mem_of_getElem? at_'))
  obtain ⟨number, ⟨rfl, rfl, name⟩ | ⟨rfl, rfl, name⟩⟩ :=
    Numbering.idOf_clash ne plain plain' same
  -- the shared number is that of a social link, and the first plain link has no later one
  all_goals obtain rfl : i = i' := by omega
  · obtain ⟨first, offset, le⟩ := traced'.links i at_'
    exact .inl ⟨shown, shown', name, first, offset, le.trans_lt ((traced.socials i).1 at_)⟩
  · obtain ⟨first, offset, le⟩ := traced.links i at_
    exact .inr ⟨shown', shown, name, first, offset, le.trans_lt ((traced'.socials i).1 at_')⟩

/-- Nothing keeps social links from being built. -/
theorem socials_unhindered {k : SectionKind} {d : k.Data} (h : 0 < socialCount k d p) :
    hindrance k d p = none := by
  cases k with
  | socials => rfl
  | _ => cases h

/-- Nothing keeps plain links from being built. -/
theorem links_unhindered {k : SectionKind} {d : k.Data} {c : k.Config} {first : Nat}
    (h : first ∈ linkOffset? k d c p) : hindrance k d p = none := by
  cases k with
  | contact | blogPosts => rfl
  | _ => cases h

theorem shownIds_traced (enabled : s.enabled = true) (free : hindrance s.kind s.data p = none) :
    ∃ ks, Traced s.kind s.data s.config p ks ∧
      (shownIds p s).Perm ((({ scope := s.id } : Numbering).labels ks).map Prod.snd) := by
  rcases shownIds_cases p s with ⟨-, failed⟩ | ⟨-, shown⟩
  · obtain ⟨f, hf⟩ := failed enabled
    have ends := build_ends s.kind s.data s.config p
    rw [free] at ends
    obtain ⟨blocks, n, hrun⟩ := ends { scope := s.id }
    rw [standard, hrun] at hf
    cases hf
  · exact shown

/-- With a clash, the first link of the one has the id of a social link of the other. -/
theorem Clash.shared (h : Clash p s s') : ∃ id, id ∈ shownIds p s ∧ id ∈ shownIds p s' := by
  obtain ⟨first, offset, lt⟩ := h.early
  obtain ⟨ks, traced, perm⟩ := shownIds_traced h.shown (socials_unhindered lt.pos)
  obtain ⟨ks', traced', perm'⟩ := shownIds_traced h.shown' (links_unhindered offset)
  have label : (.social, Numbering.idOf s.id .social (0 + first + 1)) ∈
      ({ scope := s.id } : Numbering).labels ks :=
    (Numbering.mem_labels _).2 ⟨first, (traced.socials first).2 lt, rfl⟩
  have label' : (.link, Numbering.idOf s'.id .link (0 + first + 1)) ∈
      ({ scope := s'.id } : Numbering).labels ks' :=
    (Numbering.mem_labels _).2 ⟨first, traced'.firstLink first offset, rfl⟩
  rw [Numbering.idOf_social, ← h.name] at label
  refine ⟨Numbering.idOf s'.id .link (0 + first + 1), perm.mem_iff.2 ?_, perm'.mem_iff.2 ?_⟩
  · exact List.mem_map_of_mem label
  · exact List.mem_map_of_mem label'

/-! ## Pages -/

variable {t : Template} {o : Options} {out : Output}

/-- The ids of a page are those of its sections. -/
theorem output_ids (h : (render .usual t p o).output = some out) :
    (out.blocks.map Block.id).Perm (t.sections.flatMap (shownIds p)) := by
  have ids : out.blocks.map Block.id = t.displayed.flatMap (shownIds p) := by
    rw [render_output .usual t p o h, Output.blocks, outputOf,
      stepsOf_flatMap _ (·.sections) rfl (fun _ _ => rfl), List.flatMap_assoc, List.map_flatMap]
    refine List.flatMap_congr fun s _ => ?_
    unfold shownIds
    rw [← usual_build]
    rcases stepOf_cases (Registry.usual.build · p) s with
      ⟨he, hs⟩ | ⟨blocks, he, hb, hs⟩ | ⟨f, he, hb, hs⟩ <;> rw [hs]
    · simp [he, Progress.skip]
    · simp [he, hb, Progress.add, rendition]
    · simp [he, hb, Progress.fail]
  rw [ids]
  exact t.displayed_perm.flatMap_right _

/-- On a page of a template without faults, the ids of all blocks are distinct unless two sections
clash: there is one that shows social links, and one of its name and `-social` that shows plain
links, and these begin before the numbers of the social links are over. -/
theorem nodup_ids_iff (sound : (validateTemplate t).errors = [])
    (h : (render .usual t p o).output = some out) :
    (out.blocks.map Block.id).Nodup ↔ ∀ s ∈ t.sections, ∀ s' ∈ t.sections, ¬ Clash p s s' := by
  have distinct := ((misfits_eq_nil_iff t).1 (List.map_eq_nil_iff.1 sound)).distinct
  rw [(output_ids h).nodup_iff, List.nodup_flatMap, and_iff_right fun s _ => shownIds_nodup p s]
  constructor
  · intro apart s hs s' hs' clash
    -- no name is longer than itself
    have ne : s ≠ s' := by
      rintro rfl
      have len := congrArg String.length clash.name
      simp at len
    have symm : Std.Symm (Function.onFun List.Disjoint (shownIds p)) :=
      ⟨fun _ _ => List.disjoint_symm⟩
    have disjoint := apart.forall hs hs' ne
    obtain ⟨id, here, there⟩ := clash.shared
    exact disjoint here there
  · intro free
    refine distinct.of_map _ |>.pairwise_of_forall_ne fun s hs s' hs' ne id here there => ?_
    have other : s.id ≠ s'.id := fun same => ne (List.inj_on_of_nodup_map distinct hs hs' same)
    rcases Clash.of_shared other here there with clash | clash
    · exact free s hs s' hs' clash
    · exact free s' hs' s hs clash

/-- A section of social links, and a section of plain ones with or without a heading before them. -/
def reachable (headline : Option String) : Template :=
  { metadata := { id := "t", name := "T" },
    capabilities := { supportedSections := [.socials, .contact] },
    sections :=
      [{ id := "me", kind := .socials,
         data := { links := [{ platform := "forge", url := "https://forge.example/me" }] },
         config := {} },
       { id := "me-social", kind := .contact,
         data := { headline, methods := [{ value := "me@forge.example" }] },
         config := { display := .minimal } }] }

/-- The heading takes the number of the social link. -/
theorem headed_nodup_ids : ∃ out, (validateTemplate (reachable (some "Write"))).errors = [] ∧
    (render .usual (reachable (some "Write")) {} {}).output = some out ∧
    (out.blocks.map Block.id).Nodup := by
  have sound : (validateTemplate (reachable (some "Write"))).errors = [] := by decide +kernel
  have rendered := congrArg Result.output
    (render_lenient .usual (reachable (some "Write")) {} {} rfl (.inr (by decide +kernel)))
  exact ⟨_, sound, rendered, (nodup_ids_iff sound rendered).2 (by decide +kernel)⟩

/-- Without the heading, both links are `me-social-link-1`. -/
theorem headless_shared_id : ∃ out, (validateTemplate (reachable none)).errors = [] ∧
    (render .usual (reachable none) {} {}).output = some out ∧
    ¬ (out.blocks.map Block.id).Nodup := by
  have rendered := congrArg Result.output
    (render_lenient .usual (reachable none) {} {} rfl (.inr (by decide +kernel)))
  refine ⟨_, by decide +kernel, rendered, ?_⟩
  rw [(output_ids rendered).nodup_iff]
  decide +kernel

end Render

end ProfileReadme
