/-
URLs of the image services. They are absolute and their hosts are sound, so a page shows them as
they are, whatever its base is and whatever their paths and queries hold.
-/
import ProfileReadme.Block.Shown
import ProfileReadme.Proofs.Text.Join
import ProfileReadme.Proofs.Url.Following

namespace ProfileReadme

namespace Url

/-- Whether a character cannot end a host, and is not dropped from it. -/
def isHostChar (c : Char) : Bool := !(c ∈ ['/', '?', '#', '\t', '\r', '\n'])

/-- An absolute URL with a sound host; what follows the host is a path or a query. -/
def OnHost (u : String) : Prop :=
  ∃ host rest : List Char, host.all isHostChar = true ∧ checkAuthority host = .ok () ∧
    (∀ c ∈ rest.head?, c = '/' ∨ c = '?') ∧ u.toList = "https://".toList ++ (host ++ rest)

theorem OnHost.append {u s : String} (h : OnHost u)
    (mark : ∀ c ∈ s.toList.head?, c = '/' ∨ c = '?') : OnHost (u ++ s) := by
  obtain ⟨host, rest, chars, sound, goesOn, hu⟩ := h
  refine ⟨host, rest ++ s.toList, chars, sound, ?_, by simp [hu]⟩
  cases rest with
  | nil => exact mark
  | cons c cs => exact goesOn

theorem OnHost.withQuery {u : String} (h : OnHost u) (q : Query) : OnHost (withQuery u q) := by
  unfold Url.withQuery
  dsimp only
  split
  · exact h
  · rw [String.append_assoc]
    exact h.append (by simp)

theorem OnHost.sound {u : String} (h : OnHost u) : IsSound u ∧ schemeOf u ≠ none := by
  obtain ⟨host, rest, chars, sound, mark, hu⟩ := h
  let kept (c : Char) : Bool := !(c = '\t' || c = '\r' || c = '\n')
  have scheme (cs : List Char) :
      splitScheme (tidy ("https://".toList ++ cs)) = some ("https", "//".toList ++ cs.filter kept) :=
    rfl
  have hostChar {c : Char} (hc : c ∈ host) : kept c = true ∧ !(c = '/' || c = '?' || c = '#') := by
    have := List.all_eq_true.1 chars c hc
    simp_all [isHostChar, kept]
  have hostKept : host.filter kept = host := List.filter_eq_self.2 fun c hc => (hostChar hc).1
  have goesOn : ∀ c ∈ (rest.filter kept).head?, (!(c = '/' || c = '?' || c = '#')) = false := by
    cases rest with
    | nil => exact nofun
    | cons c cs =>
      rcases mark c rfl with rfl | rfl <;> rintro c' ⟨⟩ <;> rfl
  have scheme : schemeOf u = some ("https", "//".toList ++ (host ++ rest.filter kept)) := by
    rw [schemeOf, hu, scheme, List.filter_append, hostKept]
  have authority : authorityOf u = host := by
    rw [authorityOf, scheme]
    exact (Text.takeWhile_append_stop (fun c hc => (hostChar hc).2) goesOn).1
  exact ⟨(congrArg checkAuthority authority).trans sound, by rw [scheme]; exact nofun⟩

/-- Links on a host are followed as they are. -/
theorem OnHost.resolve {u : String} (h : OnHost u) (base : Option String) :
    resolve u base = .ok u := by
  obtain ⟨sound, absolute⟩ := h.sound
  obtain ⟨r, hr⟩ := (parse_ok_iff u "").2 sound
  have named : ¬ r.scheme.isEmpty = true := mt (parse_relative hr).1 absolute
  unfold Url.resolve
  cases base with
  | none => rfl
  | some base =>
    dsimp only
    rw [hr]
    split
    · rfl
    · exact if_neg named

/-! ## Services -/

/-- The services whose images a block may embed. -/
def services : List String :=
  [badgeService, statsService, streakService, trophyService, graphService, summaryService,
    typingService]

theorem services_onHost : ∀ s ∈ services, OnHost s := by
  have onHost (host path : String) (chars : host.toList.all isHostChar = true)
      (sound : (checkAuthority host.toList).toOption = some ())
      (mark : ∀ c ∈ path.toList.head?, c = '/' ∨ c = '?') :
      OnHost ("https://" ++ host ++ path) := by
    refine ⟨host.toList, path.toList, chars, ?_, mark, by simp⟩
    cases checked : checkAuthority host.toList with
    | ok u => rfl
    | error fault =>
      rw [checked] at sound
      cases sound
  simp only [services, List.forall_mem_cons]
  exact ⟨onHost "img.shields.io" "/badge" (by decide) (by decide +kernel) (by simp),
    onHost "github-readme-stats.vercel.app" "/api" (by decide) (by decide +kernel) (by simp),
    onHost "github-readme-streak-stats.herokuapp.com" "" (by decide) (by decide +kernel) (by simp),
    onHost "github-profile-trophy.vercel.app" "" (by decide) (by decide +kernel) (by simp),
    onHost "github-readme-activity-graph.vercel.app" "/graph" (by decide) (by decide +kernel)
      (by simp),
    onHost "github-profile-summary-cards.vercel.app" "/api/cards/profile-details" (by decide)
      (by decide +kernel) (by simp),
    onHost "readme-typing-svg.herokuapp.com" "" (by decide) (by decide +kernel) (by simp), by simp⟩

/-- What is asked of a service: a path below it, and a query. -/
theorem asked_onHost {service path : String} (known : service ∈ services)
    (below : path.toList.head? = some '/') (q : Query) : OnHost (withQuery (service ++ path) q) :=
  ((services_onHost service known).append (by simp [below])).withQuery q

theorem statsCard_onHost (username : Value) (card : StatCard) (o : CardOptions) :
    OnHost (statsCard username card o) := by
  have service {s : String} (known : s ∈ services) (q : Query) : OnHost (withQuery s q) :=
    (services_onHost s known).withQuery q
  cases card with
  | stats | streak | trophies | activityGraph | profileSummary => exact service (by decide) _
  | topLangs => exact asked_onHost (by decide) (by decide) _

end Url

/-! ## Images of blocks -/

namespace Element

open Url

theorem Badge.imageUrl_onHost (b : Badge) : OnHost b.imageUrl := by
  unfold Badge.imageUrl Url.badge
  rw [String.append_assoc]
  exact asked_onHost (by decide) (by simp) _

theorem Social.imageUrl_onHost (s : Social) : OnHost s.imageUrl := by
  unfold Social.imageUrl Url.socialBadge
  simp only [String.append_assoc]
  exact asked_onHost (by decide) (by simp) _

theorem Typing.imageUrl_onHost (t : Typing) : OnHost t.imageUrl := by
  unfold Typing.imageUrl Url.typing
  simp only [String.append_assoc]
  exact (services_onHost typingService (by decide)).append (by simp)

theorem StatsCard.imageUrl_onHost (c : StatsCard) : OnHost c.imageUrl := statsCard_onHost ..

theorem Graph.imageUrl_onHost (g : Graph) : OnHost g.imageUrl :=
  (services_onHost graphService (by decide)).withQuery _

end Element

end ProfileReadme
