/-
Entries of section lists. The profile holds lists of the same entries.
-/
import ProfileReadme.Schema.Record

namespace ProfileReadme

open Reader

/-- How well a technology is known. -/
inductive Proficiency where
  | beginner | intermediate | advanced | expert
deriving DecidableEq, Repr, Inhabited

instance : Named Proficiency where
  all := [.beginner, .intermediate, .advanced, .expert]
  name
    | .beginner => "beginner"
    | .intermediate => "intermediate"
    | .advanced => "advanced"
    | .expert => "expert"

instance : Named.Lawful Proficiency := ⟨by intro a; cases a <;> decide⟩

/-- How far a project is. -/
inductive ProjectStatus where
  | active | completed | archived | onHold | comingSoon
deriving DecidableEq, Repr, Inhabited

instance : Named ProjectStatus where
  all := [.active, .completed, .archived, .onHold, .comingSoon]
  name
    | .active => "active"
    | .completed => "completed"
    | .archived => "archived"
    | .onHold => "on-hold"
    | .comingSoon => "coming-soon"

instance : Named.Lawful ProjectStatus := ⟨by intro a; cases a <;> decide⟩

/-- The medium of a contact method. -/
inductive ContactKind where
  | email | phone | form | calendly | other
deriving DecidableEq, Repr, Inhabited

instance : Named ContactKind where
  all := [.email, .phone, .form, .calendly, .other]
  name
    | .email => "email"
    | .phone => "phone"
    | .form => "form"
    | .calendly => "calendly"
    | .other => "other"

instance : Named.Lawful ContactKind := ⟨by intro a; cases a <;> decide⟩

/-- A technology of a stack. -/
structure TechItem where
  name : String
  category : String := "other"
  proficiency : Option Proficiency := none
  featured : Bool := false
deriving DecidableEq, Repr, Inhabited

def TechItem.read : Reader TechItem :=
  closedRecord "tech item" ["name", "category", "proficiency", "featured"] fun fs =>
    TechItem.mk <$> required "name" text fs <*> field "category" "other" text fs
      <*> optionalField "proficiency" Named.read fs <*> field "featured" false bool fs

def TechItem.write (r : TechItem) : Value :=
  .obj [("name", .text r.name), ("category", .text r.category),
    ("proficiency", .optional Named.write r.proficiency), ("featured", .bool r.featured)]

/-- A project with its links and counts. -/
structure Project where
  name : String
  description : String := ""
  repoUrl : Option String := none
  demoUrl : Option String := none
  techStack : List String := []
  status : ProjectStatus := .active
  featured : Bool := false
  stars : Option Int := none
  forks : Option Int := none
deriving DecidableEq, Repr, Inhabited

def Project.read : Reader Project :=
  closedRecord "project" ["name", "description", "repo_url", "demo_url", "tech_stack", "status",
      "featured", "stars", "forks"] fun fs =>
    Project.mk <$> required "name" text fs <*> field "description" "" text fs
      <*> optionalField "repo_url" text fs <*> optionalField "demo_url" text fs
      <*> field "tech_stack" [] (list text) fs <*> field "status" .active Named.read fs
      <*> field "featured" false bool fs <*> optionalField "stars" int fs
      <*> optionalField "forks" int fs

def Project.write (r : Project) : Value :=
  .obj [("name", .text r.name), ("description", .text r.description),
    ("repo_url", .optional .text r.repoUrl), ("demo_url", .optional .text r.demoUrl),
    ("tech_stack", .texts r.techStack), ("status", Named.write r.status),
    ("featured", .bool r.featured), ("stars", .optional .int r.stars),
    ("forks", .optional .int r.forks)]

/-- A position; without an end date it is held now. -/
structure Experience where
  company : String
  role : String
  startDate : String
  endDate : Option String := none
  location : Option String := none
  description : String := ""
  highlights : List String := []
  technologies : List String := []
deriving DecidableEq, Repr, Inhabited

def Experience.read : Reader Experience :=
  closedRecord "experience" ["company", "role", "start_date", "end_date", "location",
      "description", "highlights", "technologies"] fun fs =>
    Experience.mk <$> required "company" text fs <*> required "role" text fs
      <*> required "start_date" text fs <*> optionalField "end_date" text fs
      <*> optionalField "location" text fs <*> field "description" "" text fs
      <*> field "highlights" [] (list text) fs <*> field "technologies" [] (list text) fs

def Experience.write (r : Experience) : Value :=
  .obj [("company", .text r.company), ("role", .text r.role), ("start_date", .text r.startDate),
    ("end_date", .optional .text r.endDate), ("location", .optional .text r.location),
    ("description", .text r.description), ("highlights", .texts r.highlights),
    ("technologies", .texts r.technologies)]

/-- A course of studies. -/
structure Education where
  institution : String
  degree : String
  startDate : String
  endDate : Option String := none
  subject : Option String := none
  gpa : Option String := none
  honors : List String := []
deriving DecidableEq, Repr, Inhabited

def Education.read : Reader Education :=
  closedRecord "education" ["institution", "degree", "start_date", "end_date", "field", "gpa",
      "honors"] fun fs =>
    Education.mk <$> required "institution" text fs <*> required "degree" text fs
      <*> required "start_date" text fs <*> optionalField "end_date" text fs
      <*> optionalField "field" text fs <*> optionalField "gpa" text fs
      <*> field "honors" [] (list text) fs

def Education.write (r : Education) : Value :=
  .obj [("institution", .text r.institution), ("degree", .text r.degree),
    ("start_date", .text r.startDate), ("end_date", .optional .text r.endDate),
    ("field", .optional .text r.subject), ("gpa", .optional .text r.gpa),
    ("honors", .texts r.honors)]

/-- An award or a publication. -/
structure Achievement where
  title : String
  description : Option String := none
  date : Option String := none
  issuer : Option String := none
  icon : Option String := none
  url : Option String := none
deriving DecidableEq, Repr, Inhabited

def Achievement.read : Reader Achievement :=
  closedRecord "achievement" ["title", "description", "date", "issuer", "icon", "url"] fun fs =>
    Achievement.mk <$> required "title" text fs <*> optionalField "description" text fs
      <*> optionalField "date" text fs <*> optionalField "issuer" text fs
      <*> optionalField "icon" text fs <*> optionalField "url" text fs

def Achievement.write (r : Achievement) : Value :=
  .obj [("title", .text r.title), ("description", .optional .text r.description),
    ("date", .optional .text r.date), ("issuer", .optional .text r.issuer),
    ("icon", .optional .text r.icon), ("url", .optional .text r.url)]

/-- A post elsewhere. -/
structure BlogPost where
  title : String
  url : String
  date : Option String := none
  excerpt : Option String := none
deriving DecidableEq, Repr, Inhabited

def BlogPost.read : Reader BlogPost :=
  closedRecord "blog post" ["title", "url", "date", "excerpt"] fun fs =>
    BlogPost.mk <$> required "title" text fs <*> required "url" text fs
      <*> optionalField "date" text fs <*> optionalField "excerpt" text fs

def BlogPost.write (r : BlogPost) : Value :=
  .obj [("title", .text r.title), ("url", .text r.url), ("date", .optional .text r.date),
    ("excerpt", .optional .text r.excerpt)]

/-- A way to reach the person. -/
structure ContactMethod where
  kind : ContactKind := .email
  value : String
  label : Option String := none
deriving DecidableEq, Repr, Inhabited

def ContactMethod.read : Reader ContactMethod :=
  closedRecord "contact method" ["type", "value", "label"] fun fs =>
    ContactMethod.mk <$> field "type" .email Named.read fs <*> required "value" text fs
      <*> optionalField "label" text fs

def ContactMethod.write (r : ContactMethod) : Value :=
  .obj [("type", Named.write r.kind), ("value", .text r.value), ("label", .optional .text r.label)]

/-- An account on a social platform. -/
structure SocialLink where
  platform : String
  url : String
  username : Option String := none
  label : Option String := none
deriving DecidableEq, Repr, Inhabited

def SocialLink.read : Reader SocialLink :=
  closedRecord "social link" ["platform", "url", "username", "label"] fun fs =>
    SocialLink.mk <$> required "platform" text fs <*> required "url" text fs
      <*> optionalField "username" text fs <*> optionalField "label" text fs

def SocialLink.write (r : SocialLink) : Value :=
  .obj [("platform", .text r.platform), ("url", .text r.url),
    ("username", .optional .text r.username), ("label", .optional .text r.label)]

end ProfileReadme
