/-
Which links a page can follow. A link is taken apart only if there is a base that it might be
relative to, and then its authority must be sound; that of the base must be too if the link turns
out to be relative. Nothing else about a link can go wrong.
-/
import ProfileReadme.Proofs.Outcome
import ProfileReadme.Url.Reference

namespace ProfileReadme.Url

/-- The scheme and the rest of a reference. -/
def schemeOf (s : String) : Option (String × List Char) := splitScheme (tidy s.toList)

/-- What stands between two slashes and the next mark, where a URL has its host. -/
def authorityIn : List Char → List Char
  | '/' :: '/' :: rest => rest.takeWhile fun c => !(c = '/' || c = '?' || c = '#')
  | _ => []

def authorityOf (s : String) : List Char :=
  authorityIn (((schemeOf s).map (·.2)).getD (tidy s.toList))

/-- The host of a reference is one that a URL may have. -/
def IsSound (s : String) : Prop := checkAuthority (authorityOf s) = .ok ()

theorem splitScheme_ne_empty {cs rest : List Char} {scheme : String}
    (h : splitScheme cs = some (scheme, rest)) : scheme ≠ "" := by
  unfold splitScheme at h
  dsimp only at h
  split at h
  · split at h
    · rename_i first others name
      split at h
      · cases h
        rw [name]
        simp
      · cases h
    · cases h
  · cases h

theorem authorityIn_bare {rest : List Char} (bare : ∀ more, rest ≠ '/' :: '/' :: more) :
    authorityIn rest = [] := by
  unfold authorityIn
  split
  · exact absurd rfl (bare _)
  · rfl

theorem checkAuthority_then (authority : List Char) (r : Reference) :
    (do checkAuthority authority; pure r) = (checkAuthority authority).map fun _ => r := by
  cases checkAuthority authority <;> rfl

/-- A reference is taken apart if its authority is sound, whatever the default scheme. -/
theorem parse_eq (s scheme : String) :
    ∃ r : Reference, r.scheme = ((schemeOf s).map (·.1)).getD scheme ∧
      parse s scheme = (checkAuthority (authorityOf s)).map fun _ => r := by
  have front : ((schemeOf s).map (·.2)).getD (tidy s.toList) =
      ((schemeOf s).getD (scheme, tidy s.toList)).2 := by
    cases schemeOf s <;> rfl
  have name : ((schemeOf s).map (·.1)).getD scheme =
      ((schemeOf s).getD (scheme, tidy s.toList)).1 := by
    cases schemeOf s <;> rfl
  have same : splitScheme (tidy s.toList) = schemeOf s := rfl
  unfold authorityOf parse
  rw [front, name]
  dsimp only
  rw [same]
  rcases (schemeOf s).getD (scheme, tidy s.toList) with ⟨name, rest⟩
  dsimp only
  split
  · exact ⟨_, rfl, checkAuthority_then _ _⟩
  · rename_i bare
    rw [authorityIn_bare bare]
    exact ⟨_, rfl, checkAuthority_then _ _⟩

theorem parse_ok_iff (s scheme : String) : (∃ r, parse s scheme = .ok r) ↔ IsSound s := by
  obtain ⟨r, -, h⟩ := parse_eq s scheme
  rw [h, IsSound]
  cases checkAuthority (authorityOf s) with
  | ok u => exact iff_of_true ⟨r, rfl⟩ rfl
  | error fault =>
    refine iff_of_false ?_ ?_
    · rintro ⟨_, h⟩
      cases h
    · intro h
      cases h

/-- The scheme of a reference that was taken apart. -/
theorem parse_scheme {s scheme : String} {r : Reference} (h : parse s scheme = .ok r) :
    r.scheme = ((schemeOf s).map (·.1)).getD scheme := by
  obtain ⟨made, hmade, same⟩ := parse_eq s scheme
  rw [same] at h
  cases hc : checkAuthority (authorityOf s) with
  | error fault => rw [hc] at h; cases h
  | ok u =>
    rw [hc] at h
    cases h
    exact hmade

theorem parse_relative {s : String} {r : Reference} (h : parse s "" = .ok r) :
    r.scheme.isEmpty = true ↔ schemeOf s = none := by
  rw [parse_scheme h]
  cases hs : schemeOf s with
  | none => simp
  | some part => simpa using splitScheme_ne_empty hs

/-- A relative reference is joined to a base if both authorities are sound. -/
theorem join_ok_iff {base url : String} (hbase : base ≠ "") (hurl : url ≠ "") :
    (∃ s, join base url = .ok s) ↔ IsSound url ∧ IsSound base := by
  unfold join
  rw [if_neg (by simpa using hbase), if_neg (by simpa using hurl), exists_bind_ok]
  constructor
  · rintro ⟨b, hb, h⟩
    obtain ⟨r, hr, -⟩ := exists_bind_ok.1 h
    exact ⟨(parse_ok_iff url b.scheme).1 ⟨r, hr⟩, (parse_ok_iff base "").1 ⟨b, hb⟩⟩
  · rintro ⟨soundUrl, soundBase⟩
    obtain ⟨b, hb⟩ := (parse_ok_iff base "").2 soundBase
    obtain ⟨r, hr⟩ := (parse_ok_iff url b.scheme).2 soundUrl
    refine ⟨b, hb, exists_bind_ok.2 ⟨r, hr, ?_⟩⟩
    -- every way on from here writes a reference
    dsimp only
    repeat' first | exact ⟨_, rfl⟩ | split

/-- A link that a page at `base` can follow. -/
def Followable (url : String) : Option String → Prop
  | none => True
  | some base =>
    base = "" ∨ url = "" ∨ Text.hasStart "#" url = true ∨ Text.hasStart "//" url = true ∨
      (IsSound url ∧ (schemeOf url ≠ none ∨ IsSound base))

theorem resolve_ok_iff (url : String) (base : Option String) :
    (∃ s, resolve url base = .ok s) ↔ Followable url base := by
  unfold resolve Followable
  cases base with
  | none => exact iff_of_true ⟨url, rfl⟩ trivial
  | some base =>
    dsimp only
    by_cases stays : (base.isEmpty || url.isEmpty || Text.hasStart "#" url
        || Text.hasStart "//" url) = true
    · rw [if_pos stays]
      refine iff_of_true ⟨url, rfl⟩ ?_
      simp only [Bool.or_eq_true, String.isEmpty_iff] at stays
      rcases stays with ((h | h) | h) | h
      · exact .inl h
      · exact .inr (.inl h)
      · exact .inr (.inr (.inl h))
      · exact .inr (.inr (.inr (.inl h)))
    · rw [if_neg stays, exists_bind_ok]
      simp only [Bool.or_eq_true, String.isEmpty_iff, not_or] at stays
      obtain ⟨⟨⟨hbase, hurl⟩, hmark⟩, hslashes⟩ := stays
      simp only [hbase, hurl, hmark, hslashes, Bool.false_eq_true, false_or]
      constructor
      · rintro ⟨r, hr, h⟩
        refine ⟨(parse_ok_iff url "").1 ⟨r, hr⟩, ?_⟩
        by_cases relative : r.scheme.isEmpty = true
        · rw [if_pos relative] at h
          exact .inr ((join_ok_iff hbase hurl).1 h).2
        · exact .inl (mt (parse_relative hr).2 relative)
      · rintro ⟨soundUrl, h⟩
        obtain ⟨r, hr⟩ := (parse_ok_iff url "").2 soundUrl
        refine ⟨r, hr, ?_⟩
        by_cases relative : r.scheme.isEmpty = true
        · rw [if_pos relative]
          rcases h with absolute | soundBase
          · exact absurd ((parse_relative hr).1 relative) absolute
          · exact (join_ok_iff hbase hurl).2 ⟨soundUrl, soundBase⟩
        · rw [if_neg relative]
          exact ⟨url, rfl⟩

end ProfileReadme.Url
