/-
What blocks show in every output: the images they embed, the texts that stand for these images,
and periods of time.
-/
import ProfileReadme.Block.Basic
import ProfileReadme.Url.Service

namespace ProfileReadme

/-- The time between two dates; without an end it lasts to the present. -/
def period (start : String) (finish : Option String) : String :=
  start ++ " – " ++ Text.filledOr finish "Present"

namespace Element

/-- A number that is there and not zero. -/
def sizeOf? (n : Option Int) : Option Int := n.filter (· ≠ 0)

def Badge.imageUrl (b : Badge) : String :=
  Url.badge b.label b.message b.color
    { style := Named.write b.style, logo := Url.ofText b.logo, logoColor := b.logoColor,
      labelColor := b.labelColor }

/-- The text of a social link: its label, or the platform. -/
def Social.text (s : Social) : String := Text.filledOr s.label s.platform

/-- The badge of a social link; without a label the badge names the platform. -/
def Social.imageUrl (s : Social) : String :=
  Url.socialBadge s.platform (if s.showLabel then some s.text else none)

def Typing.imageUrl (t : Typing) : String := Url.typing t.texts { pause := some t.pauseTime }

def StatsCard.imageUrl (c : StatsCard) : String :=
  Url.statsCard (.text c.username) c.card
    { theme := .text c.theme, showIcons := .bool c.showIcons, hideBorder := c.hideBorder,
      includeAllCommits := c.includeAllCommits, countPrivate := c.countPrivate }

def StatsCard.alt (c : StatsCard) : String := c.username ++ "'s " ++ Url.cardLabel c.card

def Graph.imageUrl (g : Graph) : String :=
  Url.contributionGraph (.text g.username) (.text g.theme) false

def Graph.alt (g : Graph) : String := g.username ++ "'s contribution graph"

/-- The period of a position, and where it was. -/
def Position.period (p : Position) : String :=
  let dates := ProfileReadme.period p.startDate p.endDate
  match Text.filled? p.location with
  | some place => dates ++ " · " ++ place
  | none => dates

/-- A position that has not ended. -/
def Position.isCurrent (p : Position) : Bool := p.endDate.isNone

/-- A degree and its subject. -/
def Study.title (s : Study) : String :=
  match Text.filled? s.subject with
  | some subject => s.degree ++ " in " ++ subject
  | none => s.degree

/-- Who gave an award, and when. -/
def Award.details (a : Award) : List String :=
  [Text.filled? a.issuer, Text.filled? a.date].filterMap id

def Award.iconText (a : Award) : String := Text.filledOr a.icon "🏆"

/-- A title after its icon. -/
def withIcon (icon : Option String) (title : String) : String :=
  match Text.filled? icon with
  | some icon => icon ++ " " ++ title
  | none => title

/-- The counts of a project that are known. -/
def ProjectCard.counts (p : ProjectCard) : List String :=
  [p.stars.map fun n => "⭐ " ++ toString n, p.forks.map fun n => "🍴 " ++ toString n].filterMap id

end Element

end ProfileReadme
