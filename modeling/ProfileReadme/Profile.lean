/-
Profiles: what is known about a person. Sections fall back to it where they leave a value empty.
-/
import ProfileReadme.Section.Entry

namespace ProfileReadme

open Reader

/-- Where a blog is hosted. -/
inductive BlogPlatform where
  | devTo | medium | hashnode | personal | other
deriving DecidableEq, Repr, Inhabited

instance : Named BlogPlatform where
  all := [.devTo, .medium, .hashnode, .personal, .other]
  name
    | .devTo => "dev.to"
    | .medium => "medium"
    | .hashnode => "hashnode"
    | .personal => "personal"
    | .other => "other"

instance : Named.Lawful BlogPlatform := ⟨by intro a; cases a <;> decide⟩

/-- A repository that the account has pinned. -/
structure Repository where
  name : String
  description : Option String := none
  url : Option String := none
  language : Option String := none
  stars : Int := 0
  forks : Int := 0
deriving DecidableEq, Repr, Inhabited

def Repository.read : Reader Repository :=
  record "repository" fun fs =>
    Repository.mk <$> required "name" text fs <*> optionalField "description" text fs
      <*> optionalField "html_url" text fs <*> optionalField "language" text fs
      <*> field "stargazers_count" 0 int fs <*> field "forks_count" 0 int fs

def Repository.write (r : Repository) : Value :=
  .obj [("name", .text r.name), ("description", .optional .text r.description),
    ("html_url", .optional .text r.url), ("language", .optional .text r.language),
    ("stargazers_count", .int r.stars), ("forks_count", .int r.forks)]

/-- The account as it was last fetched. -/
structure AccountSnapshot where
  login : String
  name : Option String := none
  avatarUrl : Option String := none
  bio : Option String := none
  pinnedRepos : List Repository := []
deriving DecidableEq, Repr, Inhabited

def AccountSnapshot.read : Reader AccountSnapshot :=
  record "account" fun fs =>
    AccountSnapshot.mk <$> required "login" text fs <*> optionalField "name" text fs
      <*> optionalField "avatar_url" text fs <*> optionalField "bio" text fs
      <*> field "pinned_repos" [] (list Repository.read) fs

def AccountSnapshot.write (r : AccountSnapshot) : Value :=
  .obj [("login", .text r.login), ("name", .optional .text r.name),
    ("avatar_url", .optional .text r.avatarUrl), ("bio", .optional .text r.bio),
    ("pinned_repos", .list (r.pinnedRepos.map Repository.write))]

structure PersonalInfo where
  displayName : Option String := none
  pronouns : Option String := none
  headline : Option String := none
  bio : Option String := none
  location : Option String := none
  website : Option String := none
  email : Option String := none
deriving DecidableEq, Repr, Inhabited

def PersonalInfo.read : Reader PersonalInfo :=
  record "personal" fun fs =>
    PersonalInfo.mk <$> optionalField "display_name" text fs <*> optionalField "pronouns" text fs
      <*> optionalField "headline" text fs <*> optionalField "bio" text fs
      <*> optionalField "location" text fs <*> optionalField "website" text fs
      <*> optionalField "email" text fs

def PersonalInfo.write (r : PersonalInfo) : Value :=
  .obj [("display_name", .optional .text r.displayName), ("pronouns", .optional .text r.pronouns),
    ("headline", .optional .text r.headline), ("bio", .optional .text r.bio),
    ("location", .optional .text r.location), ("website", .optional .text r.website),
    ("email", .optional .text r.email)]

structure ProfessionalInfo where
  experience : List Experience := []
  education : List Education := []
  yearsOfExperience : Option Int := none
deriving DecidableEq, Repr, Inhabited

def ProfessionalInfo.read : Reader ProfessionalInfo :=
  record "professional" fun fs =>
    ProfessionalInfo.mk <$> field "experience" [] (list Experience.read) fs
      <*> field "education" [] (list Education.read) fs
      <*> optionalField "years_of_experience" int fs

def ProfessionalInfo.write (r : ProfessionalInfo) : Value :=
  .obj [("experience", .list (r.experience.map Experience.write)),
    ("education", .list (r.education.map Education.write)),
    ("years_of_experience", .optional .int r.yearsOfExperience)]

structure ProfileTechStack where
  items : List TechItem := []
deriving DecidableEq, Repr, Inhabited

def ProfileTechStack.read : Reader ProfileTechStack :=
  record "profile stack" fun fs =>
    ProfileTechStack.mk <$> field "items" [] (list TechItem.read) fs

def ProfileTechStack.write (r : ProfileTechStack) : Value :=
  .obj [("items", .list (r.items.map TechItem.write))]

structure ProfileProjects where
  items : List Project := []
deriving DecidableEq, Repr, Inhabited

def ProfileProjects.read : Reader ProfileProjects :=
  record "profile projects" fun fs =>
    ProfileProjects.mk <$> field "items" [] (list Project.read) fs

def ProfileProjects.write (r : ProfileProjects) : Value :=
  .obj [("items", .list (r.items.map Project.write))]

structure ProfileSocialLinks where
  links : List SocialLink := []
deriving DecidableEq, Repr, Inhabited

def ProfileSocialLinks.read : Reader ProfileSocialLinks :=
  record "profile links" fun fs =>
    ProfileSocialLinks.mk <$> field "links" [] (list SocialLink.read) fs

def ProfileSocialLinks.write (r : ProfileSocialLinks) : Value :=
  .obj [("links", .list (r.links.map SocialLink.write))]

structure BlogIntegration where
  enabled : Bool := false
  platform : Option BlogPlatform := none
  feedUrl : Option String := none
deriving DecidableEq, Repr, Inhabited

def BlogIntegration.read : Reader BlogIntegration :=
  record "blog" fun fs =>
    BlogIntegration.mk <$> field "enabled" false bool fs
      <*> optionalField "platform" Named.read fs <*> optionalField "feed_url" text fs

def BlogIntegration.write (r : BlogIntegration) : Value :=
  .obj [("enabled", .bool r.enabled), ("platform", .optional Named.write r.platform),
    ("feed_url", .optional .text r.feedUrl)]

structure SpotifyIntegration where
  enabled : Bool := false
deriving DecidableEq, Repr, Inhabited

def SpotifyIntegration.read : Reader SpotifyIntegration :=
  record "music account" fun fs =>
    SpotifyIntegration.mk <$> field "enabled" false bool fs

def SpotifyIntegration.write (r : SpotifyIntegration) : Value :=
  .obj [("enabled", .bool r.enabled)]

structure WakatimeIntegration where
  enabled : Bool := false
  username : Option String := none
deriving DecidableEq, Repr, Inhabited

def WakatimeIntegration.read : Reader WakatimeIntegration :=
  record "coding account" fun fs =>
    WakatimeIntegration.mk <$> field "enabled" false bool fs <*> optionalField "username" text fs

def WakatimeIntegration.write (r : WakatimeIntegration) : Value :=
  .obj [("enabled", .bool r.enabled), ("username", .optional .text r.username)]

structure Integrations where
  blog : BlogIntegration := {}
  spotify : SpotifyIntegration := {}
  wakatime : WakatimeIntegration := {}
deriving DecidableEq, Repr, Inhabited

def Integrations.read : Reader Integrations :=
  record "integrations" fun fs =>
    Integrations.mk <$> field "blog" {} BlogIntegration.read fs
      <*> field "spotify" {} SpotifyIntegration.read fs
      <*> field "wakatime" {} WakatimeIntegration.read fs

def Integrations.write (r : Integrations) : Value :=
  .obj [("blog", r.blog.write), ("spotify", r.spotify.write), ("wakatime", r.wakatime.write)]

/-- What is known about a person. -/
structure Profile where
  githubUsername : String := ""
  github : Option AccountSnapshot := none
  personal : PersonalInfo := {}
  professional : ProfessionalInfo := {}
  techStack : ProfileTechStack := {}
  projects : ProfileProjects := {}
  socialLinks : ProfileSocialLinks := {}
  integrations : Integrations := {}
  createdAt : Option Timestamp := none
  updatedAt : Option Timestamp := none
deriving DecidableEq, Repr, Inhabited

def Profile.read : Reader Profile :=
  record "profile" fun fs =>
    Profile.mk <$> field "github_username" "" text fs
      <*> optionalField "github" AccountSnapshot.read fs
      <*> field "personal" {} PersonalInfo.read fs
      <*> field "professional" {} ProfessionalInfo.read fs
      <*> field "tech_stack" {} ProfileTechStack.read fs
      <*> field "projects" {} ProfileProjects.read fs
      <*> field "social_links" {} ProfileSocialLinks.read fs
      <*> field "integrations" {} Integrations.read fs <*> optionalField "created_at" time fs
      <*> optionalField "updated_at" time fs

def Profile.write (r : Profile) : Value :=
  .obj [("github_username", .text r.githubUsername),
    ("github", .optional AccountSnapshot.write r.github), ("personal", r.personal.write),
    ("professional", r.professional.write), ("tech_stack", r.techStack.write),
    ("projects", r.projects.write), ("social_links", r.socialLinks.write),
    ("integrations", r.integrations.write),
    ("created_at", .optional (fun t => .text t.write) r.createdAt),
    ("updated_at", .optional (fun t => .text t.write) r.updatedAt)]

namespace Profile

/-- The name that stands for a person: the display name, the account's name, or the account. -/
def shownName (p : Profile) : String :=
  Text.filledOr p.personal.displayName (Text.filledOr (p.github.bind (·.name)) p.githubUsername)

def avatarUrl (p : Profile) : Option String := p.github.bind (·.avatarUrl)

end Profile

end ProfileReadme
