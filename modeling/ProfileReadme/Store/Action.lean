/-
Edits of a session, each a step from one state to the next. An edit whose outcome a reader rejects
is refused and has no next state.
-/
import ProfileReadme.Store.State

namespace ProfileReadme

/-! ## Edits of a template -/

namespace Template

/-- Puts a section in the place of every section with an id. -/
def replaceSection (t : Template) (id : String) (s : Section) : Template :=
  t.withSections (t.sections.map fun old => if old.id = id then s else old)

/-- Where a section goes. -/
inductive Move where
  | up | down
deriving DecidableEq, Repr, Inhabited

/-- Swaps the items at two places, if there are items at both. -/
def swapped (xs : List α) (i j : Nat) : List α :=
  match xs[i]?, xs[j]? with
  | some a, some b => (xs.set i b).set j a
  | _, _ => xs

/-- The items after the one at a place has gone one place up or down; at an end it stays. -/
def Move.apply (m : Move) (i : Nat) (xs : List α) : List α :=
  match m with
  | .up => if i = 0 then xs else swapped xs i (i - 1)
  | .down => swapped xs i (i + 1)

/-- Numbers the sections from zero on. -/
def numbered (ss : List Section) : List Section :=
  ss.mapIdx fun i s => { s with order := i }

/-- Moves the first displayed section with an id, and numbers the sections as displayed. -/
def moveSection (t : Template) (id : String) (m : Move) : Template :=
  match t.displayed.findIdx? (·.id == id) with
  | some i => t.withSections (numbered (m.apply i t.displayed))
  | none => t

end Template

/-! ## Edits of a session -/

inductive Action where
  | setTemplate (t : Template)
  | clearTemplate
  | toggleSection (id : String)
  | moveSection (id : String) (m : Template.Move)
  | updateSectionConfig (id : String) (changes : Value)
  | setProfile (p : Profile)
  | updateProfile (changes : Value)
  | setPreviewTheme (theme : Value)
  | reset

/-- Why an edit is refused. -/
inductive Refusal where
  /-- What comes out is no valid record. -/
  | invalid (issues : List Issue)
  /-- The changes are no object, so they cannot be laid over a record. -/
  | notObject

namespace Action

def name : Action → String
  | .setTemplate _ => "set_template"
  | .clearTemplate => "clear_template"
  | .toggleSection _ => "toggle_section"
  | .moveSection _ .up => "move_section_up"
  | .moveSection _ .down => "move_section_down"
  | .updateSectionConfig .. => "update_section_config"
  | .setProfile _ => "set_profile"
  | .updateProfile _ => "update_profile"
  | .setPreviewTheme _ => "set_preview_theme"
  | .reset => "reset"

/-- What is said of a rejected edit. -/
def rejection (a : Action) (issues : List Issue) : String :=
  a.name ++ ": " ++ toString issues.length ++ " validation error(s)"

/-- The record with changes laid over it, read anew. -/
def reread (read : Reader α) (record changes : Value) : Except Refusal α :=
  match changes with
  | .object _ =>
    match read (record.merge changes) with
    | .ok a => .ok a
    | .bad issues => .error (.invalid issues)
  | _ => .error .notObject

/-- A section whose config has changes laid over it. -/
def reconfigured (s : Section) (changes : Value) : Except Refusal Section :=
  match changes with
  | .object _ => reread Section.read s.write (.obj [("config", changes)])
  | _ => .error .notObject

/-- An edit of the section with an id, if there is one. -/
def onSection (id : String) (edit : Section → Except Refusal Section) (s : State) :
    Except Refusal State :=
  match s.template with
  | none => .ok s
  | some t =>
    match t.find? id with
    | none => .ok s
    | some old => (edit old).map fun new => { s with template := some (t.replaceSection id new) }

/-- The state after an edit in a session that began with a profile. -/
def apply (initial : Profile) (a : Action) (s : State) : Except Refusal State :=
  match a with
  | .setTemplate t =>
    .ok { s with template := some t, theme := Named.write t.styles.defaultTheme }
  | .clearTemplate => .ok { s with template := none, result := none }
  | .toggleSection id => onSection id (fun old => .ok { old with enabled := !old.enabled }) s
  | .moveSection id m => .ok { s with template := s.template.map (·.moveSection id m) }
  | .updateSectionConfig id changes => onSection id (reconfigured · changes) s
  | .setProfile p => .ok { s with profile := p }
  | .updateProfile changes =>
    (reread Profile.read s.profile.write changes).map fun p => { s with profile := p }
  | .setPreviewTheme theme => .ok { s with theme }
  | .reset => .ok { profile := initial }

end Action

end ProfileReadme
