/-
What a command line asks for. Options may stand before and after other arguments; of an option
that is given twice the last one counts.
-/
import ProfileReadme.Text.Basic

namespace ProfileReadme.CommandLine

/-! ## Options -/

/-- What an option says: a text of its own, or yes or no. -/
inductive Setting where
  | text (s : String)
  | flag (b : Bool)
deriving DecidableEq, Repr

/-- What an option takes: the next argument, or nothing. -/
inductive Arity where
  | text
  | flag (b : Bool)
deriving DecidableEq, Repr

/-- A name of an option, and the key that it sets. -/
structure OptionName where
  name : String
  key : String
  arity : Arity
deriving DecidableEq, Repr

/-- The options of a command. -/
abbrev OptionNames := List OptionName

/-- Arguments told apart: the settings of options, and the others in order. -/
structure Told where
  settings : List (String × Setting) := []
  others : List String := []
deriving Repr

namespace Told

def set (key : String) (s : Setting) (t : Told) : Told :=
  { t with settings := (key, s) :: t.settings }

def text? (t : Told) (key : String) : Option String :=
  match t.settings.lookup key with
  | some (.text s) => some s
  | _ => none

def flag? (t : Told) (key : String) : Option Bool :=
  match t.settings.lookup key with
  | some (.flag b) => some b
  | _ => none

def flag (t : Told) (key : String) : Bool := (t.flag? key).getD false

end Told

def OptionNames.find? (names : OptionNames) (name : String) : Option OptionName :=
  List.find? (fun o => o.name == name) names

/-- A name of two dashes, or of one dash and more than one letter. -/
def isLong (name : String) : Bool := 2 < name.length

/-- Sets an option; `given` is the text that came with its name, if any. Gives the arguments that
are left. -/
def setOption (o : OptionName) (given : Option String) (rest : List String) (t : Told) :
    Option (Told × List String) :=
  match o.arity, given, rest with
  | .text, some s, rest => some (t.set o.key (.text s), rest)
  | .text, none, s :: rest => some (t.set o.key (.text s), rest)
  | .text, none, [] => none
  | .flag b, none, rest => some (t.set o.key (.flag b), rest)
  | .flag _, some _, _ => none

/-- Options of one letter each, after one dash; the first that takes a text takes what follows. -/
def setLetters (names : OptionNames) : List Char → List String → Told → Option (Told × List String)
  | [], rest, t => some (t, rest)
  | c :: cs, rest, t => do
    let o ← names.find? (String.ofList ['-', c])
    match o.arity with
    | .flag b => setLetters names cs rest (t.set o.key (.flag b))
    | .text => setOption o (if cs.isEmpty then none else some (String.ofList cs)) rest t

/-- An argument that begins with a dash. -/
def setNamed (names : OptionNames) (arg : String) (rest : List String) (t : Told) :
    Option (Told × List String) :=
  let cs := arg.toList
  let name := String.ofList (cs.takeWhile (· ≠ '='))
  let after := String.ofList ((cs.dropWhile (· ≠ '=')).drop 1)
  let given := if cs.contains '=' then some after else none
  match (names.find? name).filter fun _ => isLong name with
  | some o => setOption o given rest t
  | none => if Text.hasStart "--" arg then none else setLetters names (cs.drop 1) rest t

def isNamed (arg : String) : Bool := Text.hasStart "-" arg && 1 < arg.length

/-- Tells arguments apart. With `mixed` options may follow other arguments; without it the first
other argument ends them. -/
def tell (names : OptionNames) (mixed : Bool) : Nat → List String → Told → Option Told
  | 0, _, t => some t
  | _ + 1, [], t => some t
  | fuel + 1, arg :: rest, t =>
    if arg = "--" then some { t with others := t.others ++ rest }
    else if isNamed arg then do
      let (t, rest) ← setNamed names arg rest t
      tell names mixed fuel rest t
    else if mixed then tell names mixed fuel rest { t with others := t.others ++ [arg] }
    else some { t with others := t.others ++ arg :: rest }

/-! ## Commands -/

/-- Where the records of a command come from. -/
structure Inputs where
  template : String
  profile : Option String := none
  username : Option String := none
deriving DecidableEq, Repr

structure RenderArguments where
  inputs : Inputs
  output : Option String := none
  theme : Option String := none
  strict : Option Bool := none
  sectionComments : Option Bool := none
  attribution : Option Bool := none
  crlf : Bool := false
deriving DecidableEq, Repr

structure PreviewArguments where
  inputs : Inputs
  output : String := "preview.html"
  theme : Option String := none
  baseUrl : Option String := none
  asMarkdown : Bool := false
  skeletons : Bool := false
deriving DecidableEq, Repr

inductive Command where
  | version
  | help
  | render (args : RenderArguments)
  | preview (args : PreviewArguments)
  | validate (inputs : Inputs)
  | templates (category : Option String) (featured : Bool)
  | init (force : Bool)
deriving DecidableEq, Repr

def helpOption : OptionName := ⟨"--help", "help", .flag true⟩

def programOptions : OptionNames :=
  [⟨"--version", "version", .flag true⟩, ⟨"-v", "version", .flag true⟩,
    ⟨"--verbose", "verbose", .flag true⟩, helpOption]

def profileOptions : OptionNames :=
  [⟨"--profile", "profile", .text⟩, ⟨"-p", "profile", .text⟩, helpOption]

def inputOptions : OptionNames :=
  [⟨"--username", "username", .text⟩, ⟨"-u", "username", .text⟩, ⟨"--theme", "theme", .text⟩,
    ⟨"--output", "output", .text⟩, ⟨"-o", "output", .text⟩] ++ profileOptions

def renderOptions : OptionNames :=
  [⟨"--strict", "strict", .flag true⟩, ⟨"--lenient", "strict", .flag false⟩,
    ⟨"--section-comments", "comments", .flag true⟩,
    ⟨"--no-section-comments", "comments", .flag false⟩,
    ⟨"--attribution", "attribution", .flag true⟩,
    ⟨"--no-attribution", "attribution", .flag false⟩, ⟨"--crlf", "crlf", .flag true⟩]
    ++ inputOptions

def previewOptions : OptionNames :=
  [⟨"--base-url", "base", .text⟩, ⟨"--markdown", "markdown", .flag true⟩,
    ⟨"--skeletons", "skeletons", .flag true⟩] ++ inputOptions

def templatesOptions : OptionNames :=
  [⟨"--category", "category", .text⟩, ⟨"-c", "category", .text⟩,
    ⟨"--featured", "featured", .flag true⟩, helpOption]

def initOptions : OptionNames := [⟨"--force", "force", .flag true⟩, helpOption]

/-- The arguments of a command, unless help was asked for. -/
def commandOf (names : OptionNames) (args : List String) (make : Told → Option Command) :
    Option Command := do
  let t ← tell names true (args.length + 1) args {}
  if t.flag "help" then some .help else make t

/-- The one argument that a command takes besides its options. -/
def Told.template? (t : Told) : Option Inputs :=
  match t.others with
  | [template] => some ⟨template, t.text? "profile", t.text? "username"⟩
  | _ => none

def Told.alone (t : Told) (c : Command) : Option Command :=
  if t.others.isEmpty then some c else none

/-- The command of a name with its arguments, if that is how it is used. -/
def command? (name : String) (args : List String) : Option Command :=
  match name with
  | "render" =>
    commandOf renderOptions args fun t => t.template?.map fun inputs =>
      .render
        { inputs, output := t.text? "output", theme := t.text? "theme", strict := t.flag? "strict",
          sectionComments := t.flag? "comments", attribution := t.flag? "attribution",
          crlf := t.flag "crlf" }
  | "preview" =>
    commandOf previewOptions args fun t => t.template?.map fun inputs =>
      .preview
        { inputs, output := (t.text? "output").getD "preview.html", theme := t.text? "theme",
          baseUrl := t.text? "base", asMarkdown := t.flag "markdown",
          skeletons := t.flag "skeletons" }
  | "validate" => commandOf profileOptions args fun t => t.template?.map .validate
  | "templates" =>
    commandOf templatesOptions args fun t =>
      t.alone (.templates (t.text? "category") (t.flag "featured"))
  | "init" => commandOf initOptions args fun t => t.alone (.init (t.flag "force"))
  | _ => none

/-- What a command line asks for, unless it is used wrongly. -/
def Command.ofArguments? (args : List String) : Option Command := do
  let t ← tell programOptions false (args.length + 1) args {}
  if t.flag "version" then some .version
  else if t.flag "help" then some .help
  else
    match t.others with
    | name :: rest => command? name rest
    | [] => none

end ProfileReadme.CommandLine
