/-
The store of an editing session. Edits wait in a queue; a flush applies them in order and then
renders at most once, so that many edits cost one render. After a render the listeners are told,
and what they ask for in turn waits for the next flush.
-/
import ProfileReadme.Store.Action

namespace ProfileReadme

/-! ## Listeners -/

mutual

/-- Someone who is told of each new state, and may ask for something when told. -/
inductive Listener where
  | mk (name : String) (asks : State → List Request)

/-- What can be asked of a store short of a flush. -/
inductive Request where
  | act (a : Action)
  | subscribe (l : Listener)
  | unsubscribe (name : String)

end

namespace Listener

def name : Listener → String
  | .mk name _ => name

def asks : Listener → State → List Request
  | .mk _ asks => asks

end Listener

/-! ## The store -/

structure Store where
  /-- The profile that a reset goes back to. -/
  initial : Profile := {}
  state : State := { profile := initial }
  /-- The edits that are not yet applied, first to last. -/
  queue : List Action := []
  renderDue : Bool := false
  renders : Nat := 0
  listeners : List Listener := []

/-- Why a flush ends without a result. -/
inductive FlushFault where
  /-- The changes of an edit are no object. -/
  | notObject
  /-- There are no such colors. -/
  | theme (issues : List Issue)

/-- What a flush gives. -/
structure Flushed where
  store : Store
  result : Except FlushFault (Option Render.Result)
  /-- The listeners that were told. -/
  told : List Listener := []

namespace Store

/-- Puts an edit at the end of the queue; a reset drops what waits there. -/
def act (s : Store) (a : Action) : Store :=
  match a with
  | .reset => { s with queue := [.reset], renderDue := true }
  | a => { s with queue := s.queue ++ [a], renderDue := true }

def subscribe (s : Store) (l : Listener) : Store := { s with listeners := s.listeners ++ [l] }

/-- Takes a listener off the list, however often it stands there. -/
def unsubscribe (s : Store) (name : String) : Store :=
  { s with listeners := s.listeners.filter (·.name ≠ name) }

def ask (s : Store) : Request → Store
  | .act a => s.act a
  | .subscribe l => s.subscribe l
  | .unsubscribe name => s.unsubscribe name

/-- How far a queue has been applied: the state, and what is said of the rejected edits. -/
structure Applied where
  state : State
  rejections : List String := []

/-- Applies edits in order. A rejected edit leaves the state as it was; changes that are no object
end it, and the edits after them are left over. -/
def applyAll (initial : Profile) : List Action → Applied → Applied × Option (List Action)
  | [], p => (p, none)
  | a :: rest, p =>
    match a.apply initial p.state with
    | .ok state => applyAll initial rest { p with state }
    | .error (.invalid issues) =>
      applyAll initial rest { p with rejections := p.rejections ++ [a.rejection issues] }
    | .error .notObject => (p, some rest)

/-- A preview is rendered without validation, and past the sections that fail. -/
def liveOptions (theme : Option ColorScheme) : Render.Options :=
  { theme, skipValidation := true, continueOnError := true }

/-- Renders a template for the profile in the colors that the state asks for. -/
def renderLive (state : State) (t : Template) : Checked Render.Result :=
  (fun theme => Render.render .usual t state.profile (liveOptions theme))
    <$> (Reader.optional Named.read state.theme).inField "theme"

/-- The result of a state: none without a template. -/
def resultOf (state : State) : Checked (Option Render.Result) :=
  match state.template with
  | none => .ok none
  | some t => some <$> renderLive state t

/-- Tells listeners of the state, one after the other, and takes up what they ask for. -/
def tell (s : Store) (ls : List Listener) : Store :=
  let state := s.state
  ls.foldl (fun s l => (l.asks state).foldl ask s) s

/-- Applies the queue, and renders if anything was queued since the last render. -/
def flush (s : Store) : Flushed :=
  match applyAll s.initial s.queue { state := s.state } with
  | (p, some rest) => ⟨{ s with state := p.state, queue := rest }, .error .notObject, []⟩
  | (p, none) =>
    let s := { s with state := p.state, queue := [] }
    if s.renderDue then
      let s := { s with renderDue := false }
      match resultOf s.state with
      | .bad issues => ⟨s, .error (.theme issues), []⟩
      | .ok result =>
        let renders := if s.state.template.isSome then s.renders + 1 else s.renders
        let state := { s.state with result, editErrors := p.rejections }
        let s := { s with state, renders }
        ⟨s.tell s.listeners, .ok result, s.listeners⟩
    else ⟨s, .ok s.state.result, []⟩

end Store

end ProfileReadme
