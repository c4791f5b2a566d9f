/-
Choices of appearance that sections and blocks share, each a finite type with a name per member.
-/
import ProfileReadme.Schema.Record

namespace ProfileReadme

/-- Where something stands across the page. -/
inductive Align where
  | left | center | right
deriving DecidableEq, Repr, Inhabited

instance : Named Align where
  all := [.left, .center, .right]
  name
    | .left => "left"
    | .center => "center"
    | .right => "right"

instance : Named.Lawful Align := ⟨by intro a; cases a <;> decide⟩

/-- The look of a badge. -/
inductive BadgeStyle where
  | flat | flatSquare | plastic | forTheBadge | social
deriving DecidableEq, Repr, Inhabited

instance : Named BadgeStyle where
  all := [.flat, .flatSquare, .plastic, .forTheBadge, .social]
  name
    | .flat => "flat"
    | .flatSquare => "flat-square"
    | .plastic => "plastic"
    | .forTheBadge => "for-the-badge"
    | .social => "social"

instance : Named.Lawful BadgeStyle := ⟨by intro a; cases a <;> decide⟩

/-- The colors of a preview. -/
inductive ColorScheme where
  | light | dark | system
deriving DecidableEq, Repr, Inhabited

instance : Named ColorScheme where
  all := [.light, .dark, .system]
  name
    | .light => "light"
    | .dark => "dark"
    | .system => "system"

instance : Named.Lawful ColorScheme := ⟨by intro a; cases a <;> decide⟩

/-- The cards about an account that a service draws. -/
inductive StatCard where
  | stats | topLangs | streak | trophies | activityGraph | profileSummary
deriving DecidableEq, Repr, Inhabited

instance : Named StatCard where
  all := [.stats, .topLangs, .streak, .trophies, .activityGraph, .profileSummary]
  name
    | .stats => "stats"
    | .topLangs => "top-langs"
    | .streak => "streak"
    | .trophies => "trophies"
    | .activityGraph => "activity-graph"
    | .profileSummary => "profile-summary"

instance : Named.Lawful StatCard := ⟨by intro a; cases a <;> decide⟩

/-- The width of a dividing rule. -/
inductive RuleWidth where
  | quarter | half | threeQuarters | full
deriving DecidableEq, Repr, Inhabited

instance : Named RuleWidth where
  all := [.quarter, .half, .threeQuarters, .full]
  name
    | .quarter => "25%"
    | .half => "50%"
    | .threeQuarters => "75%"
    | .full => "100%"

instance : Named.Lawful RuleWidth := ⟨by intro a; cases a <;> decide⟩

end ProfileReadme
