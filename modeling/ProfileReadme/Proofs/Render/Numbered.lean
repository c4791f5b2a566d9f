/-
Every block that a builder makes ends up on the page, under the number that it was given. The
numbers of the blocks of a section are all numbers from one on, each once, whatever the order in
which the blocks stand; and each id names the kind of its own block.
-/
import ProfileReadme.Proofs.Outcome
import ProfileReadme.Proofs.Render.Labels
import Mathlib.Data.List.Perm.Basic

namespace ProfileReadme

/-! ## Numbers of labels -/

theorem Numbering.labels_eq (n : Numbering) (ks : List BlockKind) :
    n.labels ks = (ks.zipIdx (n.count + 1)).map fun (k, i) => (k, idOf n.scope k i) := by
  refine List.ext_getElem? fun i => ?_
  rw [labels, List.getElem?_mapIdx, List.getElem?_map, List.getElem?_zipIdx, Option.map_map]
  refine congrArg (ks[i]?.map ·) (funext fun k => ?_)
  rw [Function.comp_apply, Nat.add_right_comm]

/-- The blocks of a tree under some numbers, one for each. -/
def Block.NumberedBy (scope : String) (blocks : List Block) (numbers : List Nat) : Prop :=
  List.Forall₂ (fun b n => b.id = Numbering.idOf scope b.kind n) (walkAll blocks) numbers

/-- Blocks with the labels of a trace, in any order, have the numbers of the trace. -/
theorem Block.numberedBy_of_labels {n : Numbering} {blocks : List Block} {ks : List BlockKind}
    (perm : (labelsAll blocks).Perm (n.labels ks)) :
    ∃ numbers, numbers.Perm (List.range' (n.count + 1) ks.length) ∧
      NumberedBy n.scope blocks numbers := by
  rw [Numbering.labels_eq] at perm
  obtain ⟨taken, same, order⟩ := (congrFun₂ (List.eq_map_comp_perm _) _ _).mpr perm
  refine ⟨taken.map (·.2), ?_, ?_⟩
  · have numbers := order.map Prod.snd
    rwa [List.zipIdx_map_snd] at numbers
  · unfold NumberedBy
    rw [List.forall₂_map_right_iff]
    have labels : List.Forall₂ (· = ·) (labelsAll blocks) _ := List.forall₂_eq_eq_eq ▸ same
    rw [labelsAll, List.forall₂_map_left_iff, List.forall₂_map_right_iff] at labels
    refine labels.imp fun b numbered same => ?_
    obtain ⟨kind, id⟩ := Prod.mk.inj same
    rwa [← kind] at id

namespace Render

/-! ## Sections -/

/-- The blocks of a section, with all that is nested in them, are numbered from one on: their ids
are those of their kinds with some number each, the numbers are all that there are for so many
blocks, and as many were given out. -/
theorem usual_numbered {s : Section} {p : Profile} {blocks : List Block}
    (h : Registry.usual.build s p = .ok blocks) :
    (∃ numbers, numbers.Perm (List.range' 1 (Block.walkAll blocks).length) ∧
      List.Forall₂ (fun b n => b.id = s.id ++ "-" ++ Named.name b.kind ++ "-" ++ toString n)
        (Block.walkAll blocks) numbers) ∧
    (build s.kind s.data s.config p).run { scope := s.id } =
      .ok (blocks, { scope := s.id, count := (Block.walkAll blocks).length }) := by
  rw [usual_build] at h
  obtain ⟨⟨made, n⟩, hrun, rfl⟩ := map_eq_ok h
  obtain ⟨ks, -, rfl, perm⟩ := build_adds s.kind s.data s.config p _ _ _ hrun
  obtain ⟨numbers, all, numbered⟩ := Block.numberedBy_of_labels perm
  have length : (Block.walkAll made).length = ks.length := by
    rw [numbered.length_eq, all.length_eq, List.length_range']
  rw [length]
  refine ⟨⟨numbers, all, numbered⟩, hrun.trans ?_⟩
  rw [Numbering.advance, Nat.zero_add]

/-- Technologies in two groups, each with a heading. -/
def groupedStack : Section :=
  { id := "stack", kind := .techStack, config := {},
    data :=
      { items := [{ name := "Lean", category := "language" }, { name := "Git", category := "tool" },
          { name := "Coq", category := "language" }],
        groupByCategory := true } }

theorem groupedStack_numbered : ∃ blocks, Registry.usual.build groupedStack {} = .ok blocks ∧
    (Block.walkAll blocks).map Block.id =
      ["stack-heading-1", "stack-badge-group-4", "stack-badge-2", "stack-badge-3",
        "stack-heading-5", "stack-badge-group-7", "stack-badge-6"] ∧
    ∃ numbers, numbers.Perm (List.range' 1 7) ∧
      List.Forall₂ (fun b n => b.id = "stack-" ++ Named.name b.kind ++ "-" ++ toString n)
        (Block.walkAll blocks) numbers := by
  have ids : (Registry.usual.build groupedStack {}).toOption.map
      (fun blocks => (Block.walkAll blocks).map Block.id) =
        some ["stack-heading-1", "stack-badge-group-4", "stack-badge-2", "stack-badge-3",
          "stack-heading-5", "stack-badge-group-7", "stack-badge-6"] := by decide +kernel
  obtain ⟨blocks, built, same⟩ := Option.map_eq_some_iff.1 ids
  have built := ok_of_toOption built
  obtain ⟨⟨numbers, all, numbered⟩, -⟩ := usual_numbered built
  have seven : (Block.walkAll blocks).length = 7 := by
    rw [← List.length_map Block.id, same]
    rfl
  rw [seven] at all
  exact ⟨blocks, built, same, numbers, all, numbered⟩

end Render

end ProfileReadme
