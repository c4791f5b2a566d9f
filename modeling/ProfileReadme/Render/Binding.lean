/-
Texts of sections bound to a profile, and names in the forms that blocks use.
-/
import ProfileReadme.Profile
import ProfileReadme.Text.Case

namespace ProfileReadme

/-- Placeholders for the name, the account and the years of experience, replaced one kind after
the other. -/
def Profile.bind (p : Profile) (s : String) : String :=
  let years := match p.professional.yearsOfExperience with
    | some n => toString n
    | none => "X"
  let s := Text.replace s "\x7bname\x7d" p.shownName
  let s := Text.replace s "\x7busername\x7d" p.githubUsername
  Text.replace s "\x7byears\x7d" years

/-- A name of words with dashes as a title: blanks between words, each capitalised. -/
def Text.title (s : String) : String :=
  Text.join " " <|
    (Text.words (Text.replace s "-" " ")).map fun w => String.ofList (Text.capitalize w)

/-- The name of a technology's logo: lower case, without blanks. -/
def logoName (s : String) : String :=
  String.ofList ((Text.lower s).toList.filter (!Text.isBlank ·))

/-- Platforms that social links know by name. -/
def knownPlatforms : List String :=
  ["github", "twitter", "linkedin", "instagram", "youtube", "twitch", "discord", "email", "website"]

/-- A platform in lower case, or `other` for one that is not known. -/
def platformName (s : String) : String :=
  let s := Text.lower s
  if s ∈ knownPlatforms then s else "other"

end ProfileReadme
