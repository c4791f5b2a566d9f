/-
The image services that a readme embeds, and the URLs of their images.
-/
import ProfileReadme.Style
import ProfileReadme.Url.Percent

namespace ProfileReadme.Url

/-! ## Services -/

def badgeService : String := "https://img.shields.io/badge"
def statsService : String := "https://github-readme-stats.vercel.app/api"
def streakService : String := "https://github-readme-streak-stats.herokuapp.com"
def trophyService : String := "https://github-profile-trophy.vercel.app"
def graphService : String := "https://github-readme-activity-graph.vercel.app/graph"
def summaryService : String :=
  "https://github-profile-summary-cards.vercel.app/api/cards/profile-details"
def typingService : String := "https://readme-typing-svg.herokuapp.com"

/-! ## Badges -/

/-- A color without the number sign in front of it. -/
def color (c : String) : String :=
  match c.toList with
  | '#' :: cs => String.ofList cs
  | _ => c

def colorOption : Option String → Value
  | none => .null
  | some c => if c.isEmpty then .null else .text (color c)

/-- Text of a badge: dashes and underscores are doubled, for one of them separates fields and the
other stands for a blank. -/
def badgeText (s : String) : String := encode (Text.replace (Text.replace s "-" "--") "_" "__")

/-- How a badge looks, as far as the URL says it. -/
structure BadgeOptions where
  style : Value := .null
  logo : Value := .null
  logoColor : Option String := none
  labelColor : Option String := none

/-- The path of a badge: label, message if there is one, color. -/
def badgePath (label : String) (message : Option String) (badgeColor : String) : String :=
  let middle := match message with
    | some m => if m.isEmpty then [] else [badgeText m]
    | none => []
  Text.join "-" (badgeText label :: middle ++ [color badgeColor])

def badge (label : String) (message : Option String) (badgeColor : String)
    (options : BadgeOptions) : String :=
  withQuery (badgeService ++ "/" ++ badgePath label message badgeColor)
    [("style", options.style), ("logo", options.logo),
      ("logoColor", colorOption options.logoColor),
      ("labelColor", colorOption options.labelColor)]

/-- Logo and color of the platforms that have a badge of their own. -/
def platforms : List (String × String × String) :=
  [("github", "github", "181717"), ("linkedin", "linkedin", "0A66C2"),
    ("twitter", "twitter", "1DA1F2"), ("instagram", "instagram", "E4405F"),
    ("youtube", "youtube", "FF0000"), ("twitch", "twitch", "9146FF"),
    ("discord", "discord", "5865F2"), ("email", "gmail", "EA4335"),
    ("website", "googlechrome", "4285F4")]

/-- The badge of a social link, with the platform as label where none is given. -/
def socialBadge (platform : String) (label : Option String) : String :=
  let (logo, badgeColor) := (platforms.lookup platform).getD ("link", "gray")
  let text := match label with
    | some l => if l.isEmpty then platform else l
    | none => platform
  withQuery (badgeService ++ "/" ++ badgeText text ++ "-" ++ badgeColor)
    [("style", .text "for-the-badge"), ("logo", .text logo), ("logoColor", .text "white")]

/-! ## Cards -/

structure CardOptions where
  theme : Value := .text "default"
  showIcons : Value := .bool true
  hideBorder : Bool := false
  includeAllCommits : Bool := false
  countPrivate : Bool := false

/-- The graph of contributions of an account. -/
def contributionGraph (username theme : Value) (hideBorder : Bool) : String :=
  withQuery graphService
    [("username", username), ("theme", theme), ("hide_border", whenOn hideBorder)]

/-- The title of a card. -/
def cardLabel : StatCard → String
  | .stats => "GitHub Stats"
  | .topLangs => "Top Languages"
  | .streak => "Streak Stats"
  | .trophies => "Trophies"
  | .activityGraph => "Activity Graph"
  | .profileSummary => "Profile Summary"

/-- The theme of a graph in place of a card theme. -/
def graphTheme (theme : Value) : Value :=
  match theme with
  | .text "default" => .text "github-compact"
  | t => t

def statsCard (username : Value) (card : StatCard) (o : CardOptions) : String :=
  match card with
  | .stats =>
    withQuery statsService
      [("username", username), ("theme", o.theme), ("show_icons", o.showIcons),
        ("include_all_commits", whenOn o.includeAllCommits),
        ("count_private", whenOn o.countPrivate), ("hide_border", whenOn o.hideBorder)]
  | .topLangs =>
    withQuery (statsService ++ "/top-langs")
      [("username", username), ("theme", o.theme), ("layout", .text "compact"),
        ("hide_border", whenOn o.hideBorder)]
  | .streak =>
    withQuery streakService
      [("user", username), ("theme", o.theme), ("hide_border", whenOn o.hideBorder)]
  | .trophies =>
    withQuery trophyService
      [("username", username), ("theme", o.theme), ("row", .int 1), ("column", .int 6)]
  | .activityGraph => contributionGraph username (graphTheme o.theme) o.hideBorder
  | .profileSummary => withQuery summaryService [("username", username), ("theme", o.theme)]

/-- What is said of a card type that does not exist. -/
def unknownCard (name : String) : String := "Unknown stats card type: " ++ name

/-- The card of a type given by its name. -/
def statsCardNamed (username : Value) (name : String) (o : CardOptions) : Except String String :=
  match Named.find? name with
  | some card => .ok (statsCard username card o)
  | none => .error (unknownCard name)

/-- The card of hours spent coding. -/
def codingCard (username layout : Value) (hideBorder : Bool) : String :=
  withQuery (statsService ++ "/wakatime")
    [("username", username), ("layout", layout), ("hide_border", whenOn hideBorder)]

/-! ## Typing animations -/

structure TypingOptions where
  center : Bool := true
  color : Option String := none
  size : Option Int := none
  pause : Option Int := none
  duration : Option Int := none
  width : Option Int := none

/-- The font size when none is given. -/
def usualFontSize : Int := 24

/-- A width in which the longest line fits: three fifths of the font size per character and a
margin, at least 500. -/
def typingWidth (lines : List String) (size : Option Int) : Int :=
  let longest := lines.foldl (fun n l => max n l.length) 0
  let font := match size with
    | some 0 | none => usualFontSize
    | some s => s
  max 500 (-((-3 * (longest * font)).fdiv 5) + 100)

/-- An animation that types the lines one after the other. -/
def typing (lines : List String) (o : TypingOptions) : String :=
  let width := o.width.getD (typingWidth lines o.size)
  let query := Query.write
    [("width", .int width), ("center", whenOn o.center), ("color", colorOption o.color),
      ("size", ofInt o.size), ("pause", ofInt o.pause), ("duration", ofInt o.duration)]
  typingService ++ "?lines=" ++ Text.join ";" (lines.map encode) ++ "&" ++ query

end ProfileReadme.Url
