/-
Running a command line: what it puts out, which files it writes, and the code that it ends with.
-/
import ProfileReadme.CommandLine.Commands

namespace ProfileReadme.CommandLine

/-- What a command has done. -/
structure Outcome where
  code : Nat := 0
  output : String := ""
  /-- The files written, first to last. -/
  written : List (String × String) := []
deriving DecidableEq, Repr, Inhabited

namespace Outcome

/-- The code of a command that is used wrongly. -/
def wrongUse : Nat := 2

/-- The columns of the terminal. -/
def columns : Nat := 80

def emit (s : String) (o : Outcome) : Outcome := { o with output := o.output ++ s }

def stop (code : Nat) (o : Outcome) : Outcome := { o with code }

end Outcome

/-- The text of an act that puts something out; tags that close what is not open have none. -/
def Act.output? : Act → Option String
  | .say text => (Console.shown? text).map fun s => Console.ofLines (Console.wrap Outcome.columns s)
  | .panel title text => do
    return Console.panel Outcome.columns (← Console.shown? title) (← Console.shown? text)
  | .table title columns rows => some (Console.table title columns rows)
  | .emit text => some text
  | .write .. | .stop _ => some ""

/-- Does one thing after the other; what cannot be done ends it. -/
def perform (d : Disk) : List Act → Outcome → Outcome
  | [], o => o
  | .stop code :: _, o => o.stop code
  | .write path text :: rest, o =>
    if d.canWrite path then perform d rest { o with written := o.written ++ [(path, text)] }
    else o.stop 1
  | a :: rest, o =>
    match a.output? with
    | some s => perform d rest (o.emit s)
    | none => o.stop 1

/-- What comes of a command line. -/
def run (d : Disk) (args : List String) : Outcome :=
  match Command.ofArguments? args with
  | none => { code := Outcome.wrongUse }
  | some c =>
    if c.isUsable d then perform d (c.acts d) {} else { code := Outcome.wrongUse }

/-- The written files that are new or not what they were, by their paths from the working
directory on. -/
def Outcome.changed (d : Disk) (o : Outcome) : List (String × String) :=
  let texts := o.written.foldl (fun fs (path, text) =>
    let name := Text.join "/" (d.within path)
    fs.filter (·.1 ≠ name) ++ [(name, text)]) []
  texts.filter fun (name, text) => d.content name ≠ some text.toUTF8.toList

end ProfileReadme.CommandLine
