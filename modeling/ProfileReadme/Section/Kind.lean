/-
The kinds of sections a template may hold.
-/
import ProfileReadme.Schema.Named

namespace ProfileReadme

/-- The tag of a section. -/
inductive SectionKind where
  | hero | about | techStack | githubStats | projects | experience | education | achievements
  | blogPosts | contact | socials | quote | divider | spacer | customMarkdown | customHtml
  | spotify | wakatime | contributions | pinnedRepos
deriving DecidableEq, Repr, Inhabited

instance : Named SectionKind where
  all := [.hero, .about, .techStack, .githubStats, .projects, .experience, .education,
    .achievements, .blogPosts, .contact, .socials, .quote, .divider, .spacer, .customMarkdown,
    .customHtml, .spotify, .wakatime, .contributions, .pinnedRepos]
  name
    | .hero => "hero"
    | .about => "about"
    | .techStack => "tech-stack"
    | .githubStats => "github-stats"
    | .projects => "projects"
    | .experience => "experience"
    | .education => "education"
    | .achievements => "achievements"
    | .blogPosts => "blog-posts"
    | .contact => "contact"
    | .socials => "socials"
    | .quote => "quote"
    | .divider => "divider"
    | .spacer => "spacer"
    | .customMarkdown => "custom-markdown"
    | .customHtml => "custom-html"
    | .spotify => "spotify"
    | .wakatime => "wakatime"
    | .contributions => "contributions"
    | .pinnedRepos => "pinned-repos"

instance : Named.Lawful SectionKind := ⟨by intro a; cases a <;> decide⟩

end ProfileReadme
