/-
The program: reads the files that a command looks at, runs the command, and puts out and writes
what comes of it.
-/
import ProfileReadme.CommandLine.Run

namespace ProfileReadme.CommandLine

/-- The bytes of a file, if it is there and can be read. -/
def contentAt (path : String) : IO Content := do
  try
    return some (← IO.FS.readBinFile path).toList
  catch _ => return none

def diskFor (here : String) (paths : List String) : IO Disk := do
  let files ← paths.filterMapM fun path => do
    return (← contentAt path).map fun bytes => (path, bytes)
  return { here, files }

/-- The directory that a path lies in, if the path names one. -/
def parentOf (path : String) : Option String :=
  match (steps path).dropLast with
  | [] => none
  | parents => some ((if Text.hasStart "/" path then "/" else "") ++ Text.join "/" parents)

def writeAt (path text : String) : IO Unit := do
  if let some parent := parentOf path then IO.FS.createDirAll parent
  IO.FS.writeFile path text

end ProfileReadme.CommandLine

open ProfileReadme.CommandLine in
def main (args : List String) : IO UInt32 := do
  let here := (← IO.currentDir).toString
  let paths := ((Command.ofArguments? args).map (Command.paths here)).getD []
  let outcome := run (← diskFor here paths) args
  try
    for (path, text) in outcome.written do writeAt path text
    IO.print outcome.output
    return outcome.code.toUInt32
  catch _ => return 1
