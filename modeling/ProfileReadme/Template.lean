/-
Templates: sections in an order, with the limits that a template sets itself.
-/
import ProfileReadme.Section.Basic

namespace ProfileReadme

open Reader

/-- What a template is meant for. -/
inductive TemplateCategory where
  | minimal | professional | creative | developer | animated | dataDriven | portfolio | academic
deriving DecidableEq, Repr, Inhabited

instance : Named TemplateCategory where
  all := [.minimal, .professional, .creative, .developer, .animated, .dataDriven, .portfolio,
    .academic]
  name
    | .minimal => "minimal"
    | .professional => "professional"
    | .creative => "creative"
    | .developer => "developer"
    | .animated => "animated"
    | .dataDriven => "data-driven"
    | .portfolio => "portfolio"
    | .academic => "academic"

instance : Named.Lawful TemplateCategory := ⟨by intro a; cases a <;> decide⟩

/-- The direction of a page. -/
inductive Direction where
  | vertical | horizontal
deriving DecidableEq, Repr, Inhabited

instance : Named Direction where
  all := [.vertical, .horizontal]
  name
    | .vertical => "vertical"
    | .horizontal => "horizontal"

instance : Named.Lawful Direction := ⟨by intro a; cases a <;> decide⟩

/-- The width of a page. -/
inductive PageWidth where
  | sm | md | lg | xl | full
deriving DecidableEq, Repr, Inhabited

instance : Named PageWidth where
  all := [.sm, .md, .lg, .xl, .full]
  name
    | .sm => "sm"
    | .md => "md"
    | .lg => "lg"
    | .xl => "xl"
    | .full => "full"

instance : Named.Lawful PageWidth := ⟨by intro a; cases a <;> decide⟩

/-- The frame of a page. -/
inductive ContainerStyle where
  | centered | fullWidth | sidebar
deriving DecidableEq, Repr, Inhabited

instance : Named ContainerStyle where
  all := [.centered, .fullWidth, .sidebar]
  name
    | .centered => "centered"
    | .fullWidth => "full-width"
    | .sidebar => "sidebar"

instance : Named.Lawful ContainerStyle := ⟨by intro a; cases a <;> decide⟩

structure Version where
  major : Int := 1
  minor : Int := 0
  patch : Int := 0
deriving DecidableEq, Repr, Inhabited

def Version.read : Reader Version :=
  record "version" fun fs =>
    Version.mk <$> field "major" 1 int fs <*> field "minor" 0 int fs <*> field "patch" 0 int fs

def Version.write (r : Version) : Value :=
  .obj [("major", .int r.major), ("minor", .int r.minor), ("patch", .int r.patch)]

structure TemplateMetadata where
  id : String
  name : String
  description : String := ""
  category : TemplateCategory := .minimal
  tags : List String := []
  author : String := ""
  version : Version := {}
  featured : Bool := false
deriving DecidableEq, Repr, Inhabited

def TemplateMetadata.read : Reader TemplateMetadata :=
  record "metadata" fun fs =>
    TemplateMetadata.mk <$> required "id" text fs <*> required "name" text fs
      <*> field "description" "" text fs <*> field "category" .minimal Named.read fs
      <*> field "tags" [] (list text) fs <*> field "author" "" text fs
      <*> field "version" {} Version.read fs <*> field "featured" false bool fs

def TemplateMetadata.write (r : TemplateMetadata) : Value :=
  .obj [("id", .text r.id), ("name", .text r.name), ("description", .text r.description),
    ("category", Named.write r.category), ("tags", .texts r.tags), ("author", .text r.author),
    ("version", r.version.write), ("featured", .bool r.featured)]

structure TemplateLayout where
  direction : Direction := .vertical
  maxWidth : PageWidth := .lg
  containerStyle : ContainerStyle := .centered
deriving DecidableEq, Repr, Inhabited

def TemplateLayout.read : Reader TemplateLayout :=
  record "layout" fun fs =>
    TemplateLayout.mk <$> field "direction" .vertical Named.read fs
      <*> field "max_width" .lg Named.read fs <*> field "container_style" .centered Named.read fs

def TemplateLayout.write (r : TemplateLayout) : Value :=
  .obj [("direction", Named.write r.direction), ("max_width", Named.write r.maxWidth),
    ("container_style", Named.write r.containerStyle)]

structure TemplateStyles where
  defaultTheme : ColorScheme := .system
  accentColor : String := "#0969da"
deriving DecidableEq, Repr, Inhabited

def TemplateStyles.read : Reader TemplateStyles :=
  record "styles" fun fs =>
    TemplateStyles.mk <$> field "default_theme" .system Named.read fs
      <*> field "accent_color" "#0969da" text fs

def TemplateStyles.write (r : TemplateStyles) : Value :=
  .obj [("default_theme", Named.write r.defaultTheme), ("accent_color", .text r.accentColor)]

/-- The kinds that a template supports when it does not say. -/
def usualSections : List SectionKind :=
  [.hero, .about, .techStack, .githubStats, .projects, .socials, .contact, .divider, .spacer]

/-- What a template declares it can hold. -/
structure Capabilities where
  supportedSections : List SectionKind := usualSections
  maxSections : Int := 20
  supportsAnimations : Bool := true
  supportsGithubStats : Bool := true
  supportsDarkMode : Bool := true
  allowCustomSections : Bool := false
  allowReordering : Bool := true
deriving DecidableEq, Repr, Inhabited

def Capabilities.read : Reader Capabilities :=
  record "capabilities" fun fs =>
    Capabilities.mk
      <$> field "supported_sections" usualSections (list (Named.readOr .notMember)) fs
      <*> field "max_sections" 20 int fs <*> field "supports_animations" true bool fs
      <*> field "supports_github_stats" true bool fs <*> field "supports_dark_mode" true bool fs
      <*> field "allow_custom_sections" false bool fs
      <*> field "allow_section_reordering" true bool fs

def Capabilities.write (r : Capabilities) : Value :=
  .obj [("supported_sections", .list (r.supportedSections.map Named.write)),
    ("max_sections", .int r.maxSections), ("supports_animations", .bool r.supportsAnimations),
    ("supports_github_stats", .bool r.supportsGithubStats),
    ("supports_dark_mode", .bool r.supportsDarkMode),
    ("allow_custom_sections", .bool r.allowCustomSections),
    ("allow_section_reordering", .bool r.allowReordering)]

/-- A template; edits make new templates. -/
structure Template where
  metadata : TemplateMetadata
  layout : TemplateLayout := {}
  styles : TemplateStyles := {}
  capabilities : Capabilities := {}
  sections : List Section := []
deriving DecidableEq

def Template.read : Reader Template :=
  record "template" fun fs =>
    Template.mk <$> required "metadata" TemplateMetadata.read fs
      <*> field "layout" {} TemplateLayout.read fs
      <*> field "styles" {} TemplateStyles.read fs
      <*> field "capabilities" {} Capabilities.read fs
      <*> field "sections" [] (list Section.read) fs

def Template.write (r : Template) : Value :=
  .obj [("metadata", r.metadata.write), ("layout", r.layout.write), ("styles", r.styles.write),
    ("capabilities", r.capabilities.write), ("sections", .list (r.sections.map Section.write))]

def Version.text (v : Version) : String :=
  toString v.major ++ "." ++ toString v.minor ++ "." ++ toString v.patch

def Capabilities.supports (c : Capabilities) (k : SectionKind) : Bool := k ∈ c.supportedSections

namespace Template

def version (t : Template) : String := t.metadata.version.text

/-- The first section with an id. -/
def find? (t : Template) (id : String) : Option Section := t.sections.find? (·.id == id)

/-- The sections by ascending order; sections of one order keep their places. -/
def displayed (t : Template) : List Section := t.sections.mergeSort fun a b => a.order ≤ b.order

def withSections (t : Template) (sections : List Section) : Template := { t with sections }

end Template

end ProfileReadme
