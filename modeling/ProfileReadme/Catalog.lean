/-
The templates that come with the program, and an empty one to start from.
-/
import ProfileReadme.Template
import ProfileReadme.Text.Case

namespace ProfileReadme.Catalog

/-! ## Templates -/

def academicResearcher : Template where
  metadata :=
    { id := "academic-researcher", name := "Research Scholar",
      description :=
        "Publication-focused profile with education, achievements and a favourite quote",
      category := .academic, tags := ["research", "academia"] }
  styles := { defaultTheme := .light }
  capabilities :=
    { supportedSections :=
        [.hero, .about, .education, .experience, .achievements, .quote, .divider, .socials],
      supportsGithubStats := false }
  sections :=
    [{ id := "hero-0001", kind := .hero, order := 0,
       data :=
        { headline := "\x7bname\x7d", subheadline := some "PhD candidate in machine learning" },
       config := { layout := .leftAligned } },
     { id := "about-0002", kind := .about, order := 1, title := some "Research Interests",
       data :=
        { content :=
            "I study robust and interpretable learning systems, with a focus on evaluation " ++
              "methodology and reproducible research.",
          currentFocus := some "Benchmarks for distribution shift" },
       config := {} },
     { id := "education-0003", kind := .education, order := 2, title := some "Education",
       data := {}, config := {} },
     { id := "experience-0004", kind := .experience, order := 3, title := some "Experience",
       data := {}, config := {} },
     { id := "achievements-0005", kind := .achievements, order := 4,
       title := some "Publications & Awards",
       data :=
        { items :=
            [{ title := "Best Paper Award", issuer := some "Workshop on Reliable ML",
               date := some "2024", icon := some "🏅" },
             { title := "Graduate Research Fellowship", date := some "2023",
               icon := some "🎓" }] },
       config := {} },
     { id := "divider-0006", kind := .divider, order := 5, data := {}, config := {} },
     { id := "quote-0007", kind := .quote, order := 6,
       data :=
        { quote := "The important thing is not to stop questioning.",
          author := some "Albert Einstein" },
       config := {} },
     { id := "socials-0008", kind := .socials, order := 7, title := some "Find Me",
       data :=
        { links :=
            [{ platform := "github", url := "https://github.com/your-username" },
             { platform := "website", url := "https://example.com" }] },
       config := { display := .minimal } }]

def fullstackDeveloper : Template where
  metadata :=
    { id := "fullstack-developer", name := "Fullstack Dev",
      description := "Balanced template showcasing both frontend and backend expertise",
      category := .developer, tags := ["fullstack", "web"], featured := true }
  styles := { defaultTheme := .dark }
  capabilities :=
    { supportedSections :=
        [.hero, .about, .techStack, .githubStats, .projects, .socials, .contributions] }
  sections :=
    [{ id := "hero-0001", kind := .hero, order := 0,
       data :=
        { headline := "Hi there, I'm \x7bname\x7d 👋",
          subheadline := some "From database to deployment",
          typingTexts :=
            ["Full-stack developer", "From database to deployment",
              "Building end-to-end solutions"],
          showWave := true },
       config :=
        { typingSpeed := some 80, typingDeleteSpeed := some 40, typingPauseTime := some 1500 } },
     { id := "about-0002", kind := .about, order := 1, title := some "About Me",
       data :=
        { content :=
            "Full-stack developer with \x7byears\x7d years of experience across the entire web " ++
              "stack. I build complete applications from database design to deployment pipelines.",
          highlights :=
            ["🔄 End-to-end development", "☁️ Cloud-native applications", "🚀 CI/CD automation",
              "📦 Shipping production code daily"] },
       config := {} },
     { id := "tech-0003", kind := .techStack, order := 2, title := some "Tech Stack",
       data :=
        { items :=
            [{ name := "TypeScript", category := "language" },
             { name := "Go", category := "language" },
             { name := "Python", category := "language" },
             { name := "React", category := "frontend" },
             { name := "Next.js", category := "frontend" },
             { name := "Node.js", category := "backend" },
             { name := "PostgreSQL", category := "database" },
             { name := "Redis", category := "database" },
             { name := "Docker", category := "devops" },
             { name := "AWS", category := "cloud" }],
          groupByCategory := true },
       config := {} },
     { id := "stats-0004", kind := .githubStats, order := 3, title := some "GitHub Stats",
       data := { cards := [.stats, .topLangs, .streak] },
       config := { theme := "github" } },
     { id := "contributions-0005", kind := .contributions, order := 4, enabled := false,
       title := some "Contribution Graph", data := {}, config := {} },
     { id := "projects-0006", kind := .projects, order := 5, title := some "Featured Projects",
       data :=
        { items :=
            [{ name := "SaaS Starter Kit",
               description := "Full-stack boilerplate with auth, billing, and admin dashboard",
               techStack := ["Next.js", "Prisma", "Stripe"], featured := true },
             { name := "Real-time Collaboration",
               description := "Google Docs-style editor with operational transforms",
               techStack := ["React", "Node.js", "WebSocket"], featured := true },
             { name := "Analytics Platform",
               description :=
                "Self-hosted analytics with custom dashboards and event tracking",
               techStack := ["Go", "ClickHouse", "React"], featured := true }] },
       config := { display := .grid, maxProjects := some 4 } },
     { id := "socials-0007", kind := .socials, order := 6, title := some "Connect With Me",
       data :=
        { links :=
            [{ platform := "github", url := "https://github.com/your-username" },
             { platform := "linkedin", url := "https://linkedin.com/in/your-username" },
             { platform := "twitter", url := "https://twitter.com/your-username" },
             { platform := "email", url := "mailto:hello@example.com" }] },
       config := {} }]

def minimalProfessional : Template where
  metadata :=
    { id := "minimal-professional", name := "Minimal Pro",
      description := "Clean, distraction-free profile with essential information only",
      category := .minimal, tags := ["professional", "clean"] }
  styles := { defaultTheme := .system }
  capabilities :=
    { supportedSections := [.hero, .about, .techStack, .githubStats, .projects, .socials],
      supportsAnimations := false }
  sections :=
    [{ id := "hero-0001", kind := .hero, order := 0,
       data :=
        { headline := "Software Engineer", subheadline := some "Building reliable software",
          showWave := true },
       config := {} },
     { id := "about-0002", kind := .about, order := 1, title := some "About Me",
       data :=
        { content :=
            "Software engineer focused on writing clean, maintainable code. I value " ++
              "simplicity, thorough testing, and clear documentation.",
          highlights :=
            ["💻 Clean code advocate", "✅ Test-driven development",
              "📚 Documentation enthusiast"] },
       config := {} },
     { id := "tech-0003", kind := .techStack, order := 2, title := some "Tech Stack",
       data :=
        { items :=
            [{ name := "Java", category := "language" },
             { name := "Python", category := "language" },
             { name := "Go", category := "language" },
             { name := "Spring Boot", category := "backend" },
             { name := "PostgreSQL", category := "database" },
             { name := "AWS", category := "cloud" },
             { name := "Docker", category := "devops" },
             { name := "Git", category := "tools" }] },
       config := { categoryHeaders := false } },
     { id := "stats-0004", kind := .githubStats, order := 3, title := some "GitHub Stats",
       data := { cards := [.stats] },
       config := { theme := "github" } },
     { id := "projects-0005", kind := .projects, order := 4, title := some "Featured Projects",
       data :=
        { items :=
            [{ name := "Config Manager",
               description := "Centralized configuration management service",
               techStack := ["Go", "etcd", "gRPC"], featured := true },
             { name := "Log Aggregator",
               description := "Lightweight log collection and search tool",
               techStack := ["Rust", "Elasticsearch", "Docker"], featured := true }] },
       config := { maxProjects := some 4 } },
     { id := "socials-0006", kind := .socials, order := 5, title := some "Connect With Me",
       data :=
        { links :=
            [{ platform := "github", url := "https://github.com/your-username" },
             { platform := "linkedin", url := "https://linkedin.com/in/your-username" }] },
       config := {} }]

def blankId : String := "blank"

/-- A template without sections that takes every kind of them. -/
def blank (name : String) : Template where
  metadata :=
    { id := blankId, name, description := "Start from scratch", category := .minimal }
  capabilities := { supportedSections := Named.all, allowCustomSections := true }

def blankName : String := "Blank Template"

/-! ## Looking up -/

/-- The templates by their ids. -/
def builtIn : List Template := [academicResearcher, fullstackDeveloper, minimalProfessional]

/-- Featured templates come first; within each half they are in the order of their names. -/
def comesBefore (a b : Template) : Bool :=
  if a.metadata.featured = b.metadata.featured then
    Text.lower a.metadata.name ≤ Text.lower b.metadata.name
  else a.metadata.featured

/-- All templates in the order of a listing. -/
def all : List Template := builtIn.mergeSort comesBefore

def featured : List Template := all.filter (·.metadata.featured)

def ofCategory (name : String) : List Template :=
  all.filter fun t => Named.name t.metadata.category == name

/-- The template of an id. -/
def find? (id : String) : Option Template :=
  if id = blankId then some (blank blankName) else builtIn.find? (·.metadata.id == id)

/-- What is said of an id without a template. -/
def notFound (id : String) : String := "Template not found: " ++ id

end ProfileReadme.Catalog
