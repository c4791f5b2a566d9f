/-
Images settle once, and it does not show who looks first. The time limit of an image is applied
by whatever happens to it next; yet what anyone finds is settled by the reports and the waits that
end before the limit, and by the limit after it.

A run is a list of moments: something happens to the tracker at a reading of its clock. What the
limit is compared with is a difference of double precision, so that it is due at most a rounding
before it is in exact arithmetic, and never after.
-/
import ProfileReadme.Preview.Tracker
import ProfileReadme.Proofs.Number.Rounding
import Mathlib.Data.List.Induction

namespace ProfileReadme

theorem Value.sameKey_text {v : Value} {u : String} : v.sameKey (.text u) ↔ v = .text u := by
  cases v with
  | text a => simp only [Value.sameKey, decide_eq_true_eq, Value.text.injEq]
  | real x => cases x <;> exact iff_of_false nofun nofun
  | _ => exact iff_of_false nofun nofun

theorem Value.text_sameKey {v : Value} {u : String} : (Value.text u).sameKey v ↔ v = .text u := by
  cases v with
  | text a =>
    simp only [Value.sameKey, decide_eq_true_eq, Value.text.injEq]
    exact eq_comm
  | _ => exact iff_of_false nofun nofun

namespace Preview

/-! ## Runs of a tracker -/

/-- What can happen to a tracker. A wait begins with a look and ends with what is left to fail. -/
inductive Happening where
  | tracked (src alt : Value) (card : String)
  | reported (src : Value) (outcome : ImageStatus)
  | looked (src : Value)
  | lookedAll
  | waitEnded (src : Value)

structure Moment where
  time : Binary64
  happening : Happening

namespace Tracker

/-- The tracker at a reading of its clock. -/
def atTime (t : Tracker) (now : Binary64) : Tracker := { t with now }

def happen (t : Tracker) : Happening → Tracker
  | .tracked src alt card => t.track src alt card
  | .reported src outcome => t.mark src outcome
  | .looked src => (t.observe src).2
  | .lookedAll => t.pending.2
  | .waitEnded src => t.mark src .failed

def run (t : Tracker) (moments : List Moment) : Tracker :=
  moments.foldl (fun t m => (t.atTime m.time).happen m.happening) t

/-- The status that someone who looks at an image finds. -/
def statusAt (t : Tracker) (u : String) (now : Binary64) : Option ImageStatus :=
  ((t.atTime now).observe (.text u)).1.map (·.status)

@[simp] theorem atTime_timeout (t : Tracker) (now : Binary64) :
    (t.atTime now).timeout = t.timeout := rfl

@[simp] theorem atTime_images (t : Tracker) (now : Binary64) : (t.atTime now).images = t.images := rfl

@[simp] theorem atTime_now (t : Tracker) (now : Binary64) : (t.atTime now).now = now := rfl

theorem atTime_eq_self {t : Tracker} {now : Binary64} (h : t.now = now) : t.atTime now = t := by
  subst h
  rfl

theorem track_frame (t : Tracker) (src alt : Value) (card : String) :
    (t.track src alt card).timeout = t.timeout ∧ (t.track src alt card).now = t.now := by
  unfold track
  split <;> exact ⟨rfl, rfl⟩

@[simp] theorem happen_timeout (t : Tracker) (h : Happening) : (t.happen h).timeout = t.timeout := by
  cases h with
  | tracked src alt card => exact (track_frame t src alt card).1
  | _ => rfl

@[simp] theorem happen_now (t : Tracker) (h : Happening) : (t.happen h).now = t.now := by
  cases h with
  | tracked src alt card => exact (track_frame t src alt card).2
  | _ => rfl

theorem run_append (t : Tracker) (ms ms' : List Moment) : t.run (ms ++ ms') = (t.run ms).run ms' :=
  List.foldl_append

@[simp] theorem run_timeout (t : Tracker) (ms : List Moment) : (t.run ms).timeout = t.timeout := by
  induction ms generalizing t with
  | nil => rfl
  | cons m rest ih => exact (ih _).trans (happen_timeout _ _)

end Tracker

/-! ## One image -/

/-- Whether the limit of an image is past. -/
def expired (timeout start now : Binary64) : Bool := timeout.le (now.sub start)

/-- The outcome that a happening has for the image of a source, if it settles it. -/
def Happening.settles (u : String) : Happening → Option ImageStatus
  | .reported src outcome =>
    if src.sameKey (.text u) && outcome != .loading then some outcome else none
  | .waitEnded src => if src.sameKey (.text u) then some .failed else none
  | .tracked .. | .looked _ | .lookedAll => none

/-- What a happening makes of the image of a source that is tracked. -/
def Happening.effect (u : String) (timeout now : Binary64) (i : CardImage) : Happening → CardImage
  | .reported src outcome => if src.sameKey (.text u) then i.settle timeout now outcome else i
  | .looked src => if src.sameKey (.text u) then i.seen timeout now else i
  | .lookedAll => i.seen timeout now
  | .waitEnded src => if src.sameKey (.text u) then i.settle timeout now .failed else i
  | .tracked .. => i

namespace CardImage

variable {i : CardImage} {timeout now : Binary64}

theorem seen_settled (h : i.status ≠ .loading) : i.seen timeout now = i := by
  simp [seen, h]

theorem settle_settled (h : i.status ≠ .loading) (outcome : ImageStatus) :
    i.settle timeout now outcome = i := by
  simp [settle, seen_settled h, h]

theorem seen_loading (h : i.status = .loading) :
    i.seen timeout now =
      { i with status := if expired timeout i.started now then .failed else .loading } := by
  unfold seen expired elapsed
  rw [h]
  cases timeout.le (now.sub i.started) <;> simp [← h]

theorem settle_expired (h : i.status = .loading) (past : expired timeout i.started now = true)
    (outcome : ImageStatus) : i.settle timeout now outcome = { i with status := .failed } := by
  simp [settle, seen_loading h, past]

theorem settle_inTime (h : i.status = .loading) (left : expired timeout i.started now = false)
    (outcome : ImageStatus) : i.settle timeout now outcome = { i with status := outcome } := by
  simp [settle, seen_loading h, left]

@[simp] theorem seen_src (i : CardImage) : (i.seen timeout now).src = i.src := by
  unfold seen
  split <;> rfl

@[simp] theorem settle_src (i : CardImage) (outcome : ImageStatus) :
    (i.settle timeout now outcome).src = i.src := by
  unfold settle
  dsimp only
  split <;> exact seen_src i

end CardImage

namespace Happening

variable {u : String} {i : CardImage} {timeout now : Binary64}

theorem settles_ne_loading {h : Happening} : h.settles u ≠ some .loading := by
  cases h <;> simp [settles]

theorem effect_settled (settled : i.status ≠ .loading) (h : Happening) :
    h.effect u timeout now i = i := by
  cases h <;>
    simp only [effect, CardImage.seen_settled settled, CardImage.settle_settled settled, ite_self]

/-- After the limit a happening leaves the image as it is, or makes it fail. -/
theorem effect_expired (loading : i.status = .loading) (past : expired timeout i.started now = true)
    (h : Happening) :
    h.effect u timeout now i = i ∨ h.effect u timeout now i = { i with status := .failed } := by
  have fails : i.seen timeout now = { i with status := .failed } := by
    simp [CardImage.seen_loading loading, past]
  have settles (outcome : ImageStatus) := CardImage.settle_expired loading past outcome
  cases h with
  | tracked => exact .inl rfl
  | lookedAll => exact .inr fails
  | looked src =>
    simp only [effect]
    split
    · exact .inr fails
    · exact .inl rfl
  | reported src _ | waitEnded src =>
    simp only [effect]
    split
    · exact .inr (settles _)
    · exact .inl rfl

/-- Before the limit a happening settles the image, or leaves it as it is. -/
theorem effect_inTime (loading : i.status = .loading)
    (left : expired timeout i.started now = false) (h : Happening) :
    h.effect u timeout now i = { i with status := (h.settles u).getD .loading } := by
  have same : { i with status := .loading } = i := by rw [← loading]
  have looks : i.seen timeout now = i := by simp [CardImage.seen_loading loading, left, same]
  cases h <;> simp only [effect, settles, looks, CardImage.settle_inTime loading left]
  case reported src outcome =>
    cases src.sameKey (.text u) <;> cases outcome <;> simp [same]
  case waitEnded src => cases src.sameKey (.text u) <;> simp [same]
  all_goals simp [same]

/-- A wait that has ended does not leave the image loading. -/
theorem effect_waitEnded (u : String) (timeout now : Binary64) (i : CardImage) :
    ((waitEnded (.text u)).effect u timeout now i).status ≠ .loading := by
  have here : (Value.text u).sameKey (.text u) = true := Value.sameKey_text.2 rfl
  simp only [effect, here, if_true]
  unfold CardImage.settle
  dsimp only
  split
  · simp
  · assumption

end Happening

/-! ## The images of a source -/

namespace Tracker

variable {t : Tracker} {u : String}

def imagesOf (t : Tracker) (u : String) : List CardImage :=
  t.images.filter (·.src.sameKey (.text u))

theorem find?_text : t.find? (.text u) = (t.imagesOf u).head? :=
  List.head?_filter.symm

theorem src_of_imagesOf {i : CardImage} (h : i ∈ t.imagesOf u) : i.src = .text u :=
  Value.sameKey_text.1 (List.mem_filter.1 h).2

/-- An edit of one source's images is one of another source's, or leaves them. -/
theorem imagesOf_update {f : CardImage → CardImage} (kept : ∀ i, (f i).src = i.src) (src : Value) :
    (t.update src f).imagesOf u =
      (t.imagesOf u).map fun i => if src.sameKey (.text u) then f i else i := by
  have edited (i : CardImage) : (if i.src.sameKey src then f i else i).src = i.src := by
    split
    · exact kept i
    · rfl
  unfold imagesOf update
  rw [List.filter_map]
  simp only [Function.comp_def, edited]
  refine List.map_congr_left fun i hi => ?_
  -- the edit asks for the source of the image, which is the one we look for
  have here : i.src = .text u := src_of_imagesOf hi
  rw [here, Bool.eq_iff_iff.2 (Value.text_sameKey.trans Value.sameKey_text.symm)]

theorem imagesOf_track_known (known : t.imagesOf u ≠ []) (src alt : Value) (card : String) :
    (t.track src alt card).imagesOf u = t.imagesOf u := by
  unfold track
  cases found : t.find? src with
  | some _ => rfl
  | none =>
    have other : src.sameKey (.text u) = false := by
      refine Bool.eq_false_iff.2 fun same => known ?_
      rw [Value.sameKey_text.1 same, find?_text] at found
      exact List.head?_eq_none_iff.1 found
    simp [imagesOf, List.filter_append, other]

theorem imagesOf_track_new (unknown : t.imagesOf u = []) (alt : Value) (card : String) :
    (t.track (.text u) alt card).imagesOf u = [{ src := .text u, alt, card, started := t.now }] := by
  unfold track
  rw [find?_text, unknown]
  have : (Value.text u).sameKey (.text u) = true := Value.sameKey_text.2 rfl
  rw [imagesOf] at unknown
  simp [imagesOf, List.filter_append, unknown, this]

theorem imagesOf_looked (now timeout : Binary64) :
    (List.map (·.seen timeout now) t.images).filter (·.src.sameKey (.text u)) =
      (t.imagesOf u).map (·.seen timeout now) := by
  rw [List.filter_map]
  simp only [Function.comp_def, CardImage.seen_src]
  rfl

/-- What happens to a tracker happens to each of its images apart. -/
theorem imagesOf_happen (known : t.imagesOf u ≠ []) (h : Happening) :
    (t.happen h).imagesOf u = (t.imagesOf u).map (h.effect u t.timeout t.now) := by
  cases h with
  | tracked src alt card => exact (imagesOf_track_known known src alt card).trans (List.map_id _).symm
  | reported src outcome => exact imagesOf_update (fun i => i.settle_src outcome) src
  | looked src => exact imagesOf_update (fun i => i.seen_src) src
  | lookedAll => exact imagesOf_looked t.now t.timeout
  | waitEnded src => exact imagesOf_update (fun i => i.settle_src .failed) src

end Tracker

/-! ## Waits -/

/-- What happens at one reading of the clock. -/
def allAt (now : Binary64) (hs : List Happening) : List Moment := hs.map (Moment.mk now)

/-- Reports that come while someone waits. -/
def reported (reports : List (Value × ImageStatus)) : List Happening :=
  reports.map fun r => .reported r.1 r.2

namespace Tracker

/-- While the clock stands still, a run is what happens in it. -/
theorem run_allAt (t : Tracker) (now : Binary64) (h : Happening) (hs : List Happening) :
    t.run (allAt now (h :: hs)) = (h :: hs).foldl happen (t.atTime now) := by
  induction hs generalizing t h with
  | nil => rfl
  | cons h' rest ih =>
    have still : ((t.atTime now).happen h).atTime now = (t.atTime now).happen h :=
      atTime_eq_self (happen_now (t.atTime now) h)
    have := ih ((t.atTime now).happen h) h'
    rw [still] at this
    exact this

theorem foldl_reported (t : Tracker) (reports : List (Value × ImageStatus)) :
    (reported reports).foldl happen t = t.report reports := by
  unfold reported
  rw [List.foldl_map]
  rfl

theorem update_sources {f : CardImage → CardImage} (kept : ∀ i, (f i).src = i.src) (t : Tracker)
    (src : Value) : (t.update src f).images.map (·.src) = t.images.map (·.src) := by
  unfold update
  rw [List.map_map]
  refine List.map_congr_left fun i _ => ?_
  dsimp only [Function.comp_apply]
  split
  · exact kept i
  · rfl

theorem report_sources (t : Tracker) (reports : List (Value × ImageStatus)) :
    (t.report reports).images.map (·.src) = t.images.map (·.src) := by
  induction reports generalizing t with
  | nil => rfl
  | cons r rest ih =>
    exact (ih (t.mark r.1 r.2)).trans (update_sources (fun i => i.settle_src r.2) t r.1)

/-- A wait for one image is a look, the reports that come meanwhile, and its end. -/
theorem wait_eq_run (t : Tracker) (now : Binary64) (src : Value)
    (reports : List (Value × ImageStatus)) :
    (t.atTime now).wait src reports =
      t.run (allAt now (.looked src :: reported reports ++ [.waitEnded src])) := by
  rw [List.cons_append, run_allAt, List.foldl_cons, List.foldl_append, foldl_reported]
  rfl

/-- A wait for all images ends for each of them. -/
theorem waitAll_eq_run (t : Tracker) (now : Binary64) (reports : List (Value × ImageStatus)) :
    (t.atTime now).waitAll reports =
      t.run (allAt now
        (.lookedAll :: reported reports ++ t.images.map fun i => .waitEnded i.src)) := by
  -- reports settle images and add none, so the wait ends for those that were there
  have sources : ((t.atTime now).pending.2.report reports).images.map (·.src) =
      t.images.map (·.src) := by
    rw [report_sources]
    simp [pending]
  have ends : (t.images.map fun i => Happening.waitEnded i.src) =
      (t.images.map (·.src)).map Happening.waitEnded := by
    rw [List.map_map]
    rfl
  rw [List.cons_append, run_allAt, List.foldl_cons, List.foldl_append, foldl_reported, ends,
    ← sources, List.map_map, List.foldl_map]
  rfl

end Tracker

/-! ## What a run decides -/

/-- Readings of a clock that does not go back. -/
def Ascending (readings : List Binary64) : Prop := readings.Pairwise fun a b => a.le b

theorem Ascending.upTo {start now : Binary64} {ms : List Moment}
    (h : Ascending (start :: ms.map (·.time) ++ [now])) :
    Ascending (start :: ms.map (·.time)) ∧ (∀ m ∈ ms, start.le m.time) ∧
      (∀ m ∈ ms, m.time.le now) := by
  obtain ⟨before, _, last⟩ := List.pairwise_append.1 h
  refine ⟨before, fun m hm => ?_, fun m hm => ?_⟩
  · exact List.rel_of_pairwise_cons before (List.mem_map_of_mem hm)
  · exact last _ (List.mem_cons_of_mem _ (List.mem_map_of_mem hm)) _ (List.mem_singleton_self _)

theorem Ascending.through {first last : List Binary64} {now : Binary64}
    (h : Ascending (first ++ [now])) (h' : Ascending (now :: last)) : Ascending (first ++ last) := by
  obtain ⟨before, _, upTo⟩ := List.pairwise_append.1 h
  obtain ⟨start, rest⟩ := List.pairwise_cons.1 h'
  refine List.pairwise_append.2 ⟨before, rest, fun a ha b hb => ?_⟩
  exact Binary64.le_trans (upTo a ha now (List.mem_singleton_self _)) (start b hb)

/-- The outcome of the first happening that settles the image of a source within its limit. -/
def inTime (timeout start : Binary64) (u : String) (ms : List Moment) : Option ImageStatus :=
  ms.findSome? fun m => if expired timeout start m.time then none else m.happening.settles u

/-- What is to be found after a run: the first outcome within the limit; without one, the image
has failed from the limit on. -/
def verdict (timeout start : Binary64) (u : String) (ms : List Moment) (now : Binary64) :
    ImageStatus :=
  match inTime timeout start u ms with
  | some outcome => outcome
  | none => if expired timeout start now then .failed else .loading

/-- What an image remembers of a run: the outcome, or that someone found the limit to be past. -/
structure Stands (timeout start : Binary64) (u : String) (ms : List Moment) (i : CardImage) :
    Prop where
  begun : i.started = start
  status : inTime timeout start u ms = some i.status ∨
    inTime timeout start u ms = none ∧
      (i.status = .loading ∨ i.status = .failed ∧ ∃ m ∈ ms, expired timeout start m.time)

theorem expired_mono {timeout start now later : Binary64} (starts : start.le now)
    (order : now.le later) (past : expired timeout start now) : expired timeout start later :=
  Binary64.le_sub_of_le starts order past

theorem inTime_append (timeout start : Binary64) (u : String) (ms ms' : List Moment) :
    inTime timeout start u (ms ++ ms') =
      (inTime timeout start u ms).or (inTime timeout start u ms') :=
  List.findSome?_append

theorem inTime_concat (timeout start : Binary64) (u : String) (ms : List Moment) (m : Moment) :
    inTime timeout start u (ms ++ [m]) = (inTime timeout start u ms).or
      (if expired timeout start m.time then none else m.happening.settles u) := by
  rw [inTime_append]
  simp [inTime]

theorem inTime_ne_loading (timeout start : Binary64) (u : String) (ms : List Moment) :
    inTime timeout start u ms ≠ some .loading := by
  intro found
  obtain ⟨m, _, outcome⟩ := List.exists_of_findSome?_eq_some found
  split at outcome
  · cases outcome
  · exact Happening.settles_ne_loading outcome

section

variable {timeout start : Binary64} {u : String} {ms : List Moment} {i : CardImage}

theorem Stands.step (h : Stands timeout start u ms i) {m : Moment}
    (starts : ∀ m' ∈ ms, start.le m'.time) (latest : ∀ m' ∈ ms, m'.time.le m.time) :
    Stands timeout start u (ms ++ [m]) (m.happening.effect u timeout m.time i) := by
  obtain ⟨rfl, found | ⟨nothing, loading | ⟨failed, m', hm', past⟩⟩⟩ := h
  · -- settled within the limit
    have settled : i.status ≠ .loading := fun loading =>
      inTime_ne_loading timeout i.started u ms (loading ▸ found)
    rw [Happening.effect_settled settled]
    exact ⟨rfl, .inl (by rw [inTime_concat, found]; rfl)⟩
  · -- nothing has settled it yet, so the reading of the clock decides
    cases past : expired timeout i.started m.time with
    | true =>
      have still : inTime timeout i.started u (ms ++ [m]) = none := by
        rw [inTime_concat, nothing, past]; rfl
      rcases Happening.effect_expired loading past m.happening with same | fails
      · rw [same]
        exact ⟨rfl, .inr ⟨still, .inl loading⟩⟩
      · rw [fails]
        exact ⟨rfl, .inr ⟨still, .inr ⟨rfl, m, List.mem_concat_self, past⟩⟩⟩
    | false =>
      rw [Happening.effect_inTime loading past]
      refine ⟨rfl, ?_⟩
      rw [inTime_concat, nothing, past]
      cases m.happening.settles u with
      | none => exact .inr ⟨rfl, .inl rfl⟩
      | some outcome => exact .inl rfl
  · -- failed by the limit, which is past for good
    have settled : i.status ≠ .loading := by rw [failed]; decide
    have stays := expired_mono (starts m' hm') (latest m' hm') past
    rw [Happening.effect_settled settled]
    refine ⟨rfl, .inr ⟨by rw [inTime_concat, nothing, stays]; rfl, .inr ⟨failed, m', ?_, past⟩⟩⟩
    exact List.mem_append_left _ hm'

/-- Whoever looks finds the verdict, whether or not the image was looked at before. -/
theorem Stands.seen (h : Stands timeout start u ms i) {now : Binary64}
    (starts : ∀ m ∈ ms, start.le m.time) (latest : ∀ m ∈ ms, m.time.le now) :
    (i.seen timeout now).status = verdict timeout start u ms now := by
  unfold verdict
  obtain ⟨rfl, found | ⟨nothing, loading | ⟨failed, m, hm, past⟩⟩⟩ := h
  · have settled : i.status ≠ .loading := fun loading =>
      inTime_ne_loading timeout i.started u ms (loading ▸ found)
    rw [found, CardImage.seen_settled settled]
  · rw [nothing, CardImage.seen_loading loading]
  · have settled : i.status ≠ .loading := by rw [failed]; decide
    have stays := expired_mono (starts m hm) (latest m hm) past
    rw [nothing, CardImage.seen_settled settled, failed, stays]
    rfl

theorem verdict_stays {later : List Moment} {now last : Binary64} (starts : start.le now)
    (clock : Ascending (now :: later.map (·.time) ++ [last]))
    (found : verdict timeout start u ms now ≠ .loading) :
    verdict timeout start u (ms ++ later) last = verdict timeout start u ms now := by
  unfold verdict at found ⊢
  rw [inTime_append]
  cases first : inTime timeout start u ms with
  | some outcome => rfl
  | none =>
    have past : expired timeout start now = true := by
      by_contra left
      simp [first, left] at found
    -- the limit was past, so whatever happened later came too late
    obtain ⟨_, following, _⟩ := clock.upTo
    have nothing : inTime timeout start u later = none := by
      refine List.findSome?_eq_none_iff.2 fun m hm => ?_
      rw [if_pos (expired_mono starts (following m hm) past)]
    have latest : now.le last := List.rel_of_pairwise_cons clock (by simp)
    rw [nothing, past, expired_mono starts latest past]
    rfl

end

namespace Tracker

variable {t : Tracker} {u : String}

/-- A settled image stays as it is, whatever happens and at whatever readings of the clock. -/
theorem run_settled {i : CardImage} (here : t.imagesOf u = [i]) (settled : i.status ≠ .loading)
    (ms : List Moment) : (t.run ms).imagesOf u = [i] := by
  induction ms generalizing t with
  | nil => exact here
  | cons m rest ih =>
    have known : (t.atTime m.time).imagesOf u = [i] := here
    refine ih (t := (t.atTime m.time).happen m.happening) ?_
    rw [imagesOf_happen (by rw [known]; simp), known, List.map_singleton,
      Happening.effect_settled settled]

/-- An image that is loading, and what a run makes of it. -/
theorem run_stands {i : CardImage} (here : t.imagesOf u = [i]) (loading : i.status = .loading)
    {ms : List Moment} (clock : Ascending (i.started :: ms.map (·.time))) :
    ∃ i', (t.run ms).imagesOf u = [i'] ∧ i'.src = .text u ∧ Stands t.timeout i.started u ms i' := by
  induction ms using List.reverseRecOn with
  | nil =>
    refine ⟨i, here, src_of_imagesOf (here ▸ List.mem_singleton_self i), rfl, ?_⟩
    exact .inr ⟨rfl, .inl loading⟩
  | append_singleton ms m ih =>
    rw [List.map_append, List.map_singleton, ← List.cons_append] at clock
    obtain ⟨earlier, starts, latest⟩ := clock.upTo
    obtain ⟨i', here', src, stands⟩ := ih earlier
    have known : ((t.run ms).atTime m.time).imagesOf u = [i'] := here'
    have next : (t.run (ms ++ [m])).imagesOf u = [m.happening.effect u t.timeout m.time i'] := by
      rw [run_append]
      refine (imagesOf_happen (by rw [known]; simp) m.happening).trans ?_
      rw [known, List.map_singleton, atTime_timeout, run_timeout, atTime_now]
    refine ⟨_, next, ?_, stands.step starts latest⟩
    exact src_of_imagesOf (next ▸ List.mem_singleton_self _)

/-- A wait that has ended, at whatever time, leaves no image loading. -/
theorem run_waited {i : CardImage} (here : t.imagesOf u = [i]) {ms : List Moment}
    (ended : ∃ m ∈ ms, m.happening = .waitEnded (.text u)) :
    ∃ i', (t.run ms).imagesOf u = [i'] ∧ i'.status ≠ .loading := by
  -- up to the end of the wait by induction, and from there on nothing changes
  induction ms generalizing t i with
  | nil => obtain ⟨_, hm, _⟩ := ended; cases hm
  | cons m rest ih =>
    have known : (t.atTime m.time).imagesOf u = [i] := here
    have next := imagesOf_happen (by rw [known]; simp) m.happening
    rw [known, List.map_singleton] at next
    obtain ⟨m', hm', wait⟩ := ended
    rcases List.mem_cons.1 hm' with rfl | later
    · rw [wait] at next
      have settled := Happening.effect_waitEnded u t.timeout m'.time i
      exact ⟨_, run_settled (t := (t.atTime m'.time).happen m'.happening) (wait ▸ next) settled rest,
        settled⟩
    · exact ih next ⟨m', later, wait⟩

theorem imagesOf_observe {i : CardImage} (here : t.imagesOf u = [i]) (now : Binary64) :
    ((t.atTime now).observe (.text u)).2.imagesOf u = [i.seen t.timeout now] := by
  have known : (t.atTime now).imagesOf u = [i] := here
  have same : (Value.text u).sameKey (.text u) = true := Value.sameKey_text.2 rfl
  refine (imagesOf_happen (by rw [known]; simp) (.looked (.text u))).trans ?_
  rw [known, List.map_singleton, Happening.effect, if_pos same]
  rfl

theorem statusAt_eq {i : CardImage} (here : t.imagesOf u = [i]) (now : Binary64) :
    t.statusAt u now = some (i.seen t.timeout now).status := by
  have found : ((t.atTime now).observe (.text u)).1 =
      ((t.atTime now).observe (.text u)).2.find? (.text u) := rfl
  rw [statusAt, found, find?_text, imagesOf_observe here]
  rfl

theorem pending_iff {i : CardImage} (here : t.imagesOf u = [i]) (now : Binary64) :
    (∃ j ∈ (t.atTime now).pending.1, j.src = .text u) ↔
      (i.seen t.timeout now).status = .loading := by
  have known : (t.atTime now).imagesOf u = [i] := here
  have looked := imagesOf_looked (t := t.atTime now) (u := u) now t.timeout
  rw [known] at looked
  constructor
  · rintro ⟨j, hj, src⟩
    obtain ⟨seen, loading⟩ := List.mem_filter.1 hj
    have : j ∈ [i].map (·.seen t.timeout now) :=
      looked ▸ List.mem_filter.2 ⟨seen, Value.sameKey_text.2 src⟩
    rw [List.mem_singleton.1 this] at loading
    exact eq_of_beq loading
  · intro loading
    have : i.seen t.timeout now ∈ [i].map (·.seen t.timeout now) := List.mem_singleton_self _
    rw [← looked] at this
    obtain ⟨seen, src⟩ := List.mem_filter.1 this
    exact ⟨_, List.mem_filter.2 ⟨seen, beq_iff_eq.2 loading⟩, Value.sameKey_text.1 src⟩

theorem track_known {i : CardImage} (here : t.imagesOf u = [i]) (alt : Value) (card : String) :
    t.track (.text u) alt card = t := by
  unfold track
  rw [find?_text, here]
  rfl

/-- A status for good: it is not that of an image still loading, it is what the image remembers,
and whoever looks finds it after whatever comes. -/
def SettledAs (t : Tracker) (u : String) (status : ImageStatus) : Prop :=
  status ≠ .loading ∧ (t.find? (.text u)).map (·.status) = some status ∧
    ∀ (later : List Moment) (last : Binary64), (t.run later).statusAt u last = some status

theorem settledAs_of_imagesOf {i : CardImage} (here : t.imagesOf u = [i])
    (settled : i.status ≠ .loading) : t.SettledAs u i.status := by
  refine ⟨settled, by rw [find?_text, here]; rfl, fun later last => ?_⟩
  rw [statusAt_eq (run_settled here settled later), CardImage.seen_settled settled]

end Tracker

/-- What there is to say about the image of a source that is tracked for the first time at the
reading `start`, after what happens in `ms` up to the reading `now`. -/
structure SettlesOnce (t : Tracker) (u : String) (start : Binary64) (ms : List Moment)
    (now : Binary64) (after : Tracker) : Prop where
  /-- Whoever looks finds the verdict. -/
  status : after.statusAt u now = some (verdict t.timeout start u ms now)
  /-- The image is pending exactly while the verdict is open. -/
  pending : (∃ i ∈ (after.atTime now).pending.1, i.src = .text u) ↔
    verdict t.timeout start u ms now = .loading
  /-- Tracking the source again changes nothing. -/
  again : ∀ (alt : Value) (card : String),
    (after.atTime now).track (.text u) alt card = after.atTime now
  /-- What has been found, loaded or failed, never changes. -/
  once : verdict t.timeout start u ms now ≠ .loading →
    ((after.atTime now).observe (.text u)).2.SettledAs u (verdict t.timeout start u ms now) ∧
    ∀ (later : List Moment) (last : Binary64),
      Ascending (now :: later.map (·.time) ++ [last]) →
        (after.run later).statusAt u last = some (verdict t.timeout start u ms now)
  /-- When a wait for it has ended, at whatever reading, the image is settled. -/
  ended : ∀ waits : List Moment, (∃ m ∈ waits, m.happening = .waitEnded (.text u)) →
    ∃ status, (after.run waits).SettledAs u status
  /-- A wait is such a run, with the reports that come meanwhile. -/
  wait : ∀ reports, (after.atTime now).wait (.text u) reports =
      after.run (allAt now (.looked (.text u) :: reported reports ++ [.waitEnded (.text u)])) ∧
    ∃ status, ((after.atTime now).wait (.text u) reports).SettledAs u status
  /-- So is a wait for all images, which ends for each of them. -/
  waitAll : ∀ reports, (after.atTime now).waitAll reports =
      after.run (allAt now
        (.lookedAll :: reported reports ++ after.images.map fun i => .waitEnded i.src)) ∧
    ∃ status, ((after.atTime now).waitAll reports).SettledAs u status
  /-- The limit is past from the exact time on, and before that only by rounding. -/
  due : t.timeout.IsDouble → ∀ s n : Int, start.units = some s → now.units = some n →
    (expired t.timeout start now ↔
      t.timeout.atMost (n - s) ∨ t.timeout.Same (now.sub start))

namespace Tracker

variable {t : Tracker} {u : String}

/-- A source that is tracked for the first time, and what a run makes of its image. -/
theorem run_tracked (new : t.find? (.text u) = none) (alt : Value) (card : String)
    {start : Binary64} {ms : List Moment} (clock : Ascending (start :: ms.map (·.time))) :
    ∃ i, (t.run (⟨start, .tracked (.text u) alt card⟩ :: ms)).imagesOf u = [i] ∧
      i.src = .text u ∧ Stands t.timeout start u ms i := by
  have unknown : (t.atTime start).imagesOf u = [] := by
    rw [find?_text] at new
    exact List.head?_eq_none_iff.1 new
  have first := imagesOf_track_new unknown alt card
  obtain ⟨i, here, src, stands⟩ := run_stands first rfl clock
  rw [(track_frame (t.atTime start) (.text u) alt card).1] at stands
  exact ⟨i, here, src, stands⟩

theorem statusAt_run (new : t.find? (.text u) = none) (alt : Value) (card : String)
    {start now : Binary64} {ms : List Moment}
    (clock : Ascending (start :: ms.map (·.time) ++ [now])) :
    (t.run (⟨start, .tracked (.text u) alt card⟩ :: ms)).statusAt u now =
      some (verdict t.timeout start u ms now) := by
  obtain ⟨earlier, starts, latest⟩ := clock.upTo
  obtain ⟨i, here, _, stands⟩ := run_tracked new alt card earlier
  rw [statusAt_eq here, run_timeout, stands.seen starts latest]

/-- Images settle once. On a clock that does not go back, and whatever happens after its source is
tracked for the first time, whoever looks at an image finds the verdict of the run: it does not
show who applied the limit, or when. -/
theorem images_settle_once (new : t.find? (.text u) = none) (alt : Value) (card : String)
    {start now : Binary64} {ms : List Moment}
    (clock : Ascending (start :: ms.map (·.time) ++ [now])) :
    SettlesOnce t u start ms now (t.run (⟨start, .tracked (.text u) alt card⟩ :: ms)) := by
  obtain ⟨earlier, starts, latest⟩ := clock.upTo
  obtain ⟨i, here, src, stands⟩ := run_tracked new alt card earlier
  have found := stands.seen starts latest
  generalize after_eq : t.run (⟨start, .tracked (.text u) alt card⟩ :: ms) = after at here
  have timeout : after.timeout = t.timeout := by rw [← after_eq, run_timeout]
  have waited {waits : List Moment} (h : ∃ m ∈ waits, m.happening = .waitEnded (.text u)) :
      ∃ status, (after.run waits).SettledAs u status := by
    obtain ⟨i', here', settled⟩ := run_waited here h
    exact ⟨_, settledAs_of_imagesOf here' settled⟩
  refine {
    status := after_eq ▸ statusAt_run new alt card clock
    pending := ?_
    again := fun alt card => track_known (t := after.atTime now) here alt card
    once := fun settled => ⟨?_, ?_⟩
    ended := fun waits => waited
    wait := fun reports => ⟨wait_eq_run after now (.text u) reports, ?_⟩
    waitAll := fun reports => ⟨waitAll_eq_run after now reports, ?_⟩
    due := fun double s n hs hn => Binary64.le_sub_iff double hs hn }
  · rw [pending_iff here, timeout, found]
  · have looked := imagesOf_observe here now
    rw [timeout] at looked
    rw [← found] at settled ⊢
    exact settledAs_of_imagesOf looked settled
  · intro later last follows
    -- the longer run is one from the first tracking on, too
    have start_le : start.le now := List.rel_of_pairwise_cons clock (by simp)
    have times : Ascending (start :: (ms ++ later).map (·.time) ++ [last]) := by
      simpa using clock.through follows
    have whole := statusAt_run new alt card times
    rw [← List.cons_append, run_append, after_eq] at whole
    rw [whole, verdict_stays start_le follows settled]
  · rw [wait_eq_run]
    exact waited ⟨_, List.mem_map_of_mem (by simp), rfl⟩
  · rw [waitAll_eq_run]
    have mem : i ∈ after.images := (List.mem_filter.1 (here ▸ List.mem_singleton_self i)).1
    refine waited ⟨_, List.mem_map_of_mem (List.mem_append_right _ (List.mem_map_of_mem mem)), ?_⟩
    rw [src]

/-- An image that is reported within its limit and tracked again before anyone looks. -/
theorem images_settle_once_reported :
    let source : Value := .text "u"
    let ms : List Moment := [⟨.ofInt 1, .reported source .loaded⟩, ⟨.ofInt 2, .tracked source .null "a"⟩]
    SettlesOnce {} "u" .zero ms (.ofInt 4) (run {} (⟨.zero, .tracked source .null "stats"⟩ :: ms)) ∧
      verdict usualTimeout .zero "u" ms (.ofInt 4) = .loaded := by
  refine ⟨images_settle_once rfl .null "stats" ?_, by decide +kernel⟩
  unfold Ascending
  decide +kernel

/-- The limit is neither the exact sum nor the rounded one: an image that comes `1e-20` after zero
fails at one, within a second, and one that comes at `1e16` is loading although the sum of that and
a second is no later. -/
theorem limit_not_a_sum :
    let t : Tracker := { timeout := .ofInt 1 }
    let came : Binary64 → Tracker := fun start =>
      t.run [⟨start, .tracked (.text "u") (.text "a") "stats"⟩]
    let early := Binary64.ofDecimal false 1 (-20)
    let late := Binary64.ofDecimal false 1 16
    ((Binary64.ofInt 1).units.getD 0 < early.units.getD 0 + t.timeout.units.getD 0 ∧
      (came early).statusAt "u" (.ofInt 1) = some .failed) ∧
    ((late.add t.timeout).le late ∧ (came late).statusAt "u" late = some .loading) := by
  decide +kernel

end Tracker

end Preview

end ProfileReadme
