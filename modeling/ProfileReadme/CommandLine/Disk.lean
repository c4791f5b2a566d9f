/-
The files that a command works on, by their paths within the working directory.
-/
import ProfileReadme.Loading

namespace ProfileReadme.CommandLine

/-- The steps of a path, without those that lead nowhere. -/
def steps (path : String) : List String :=
  ((Text.splitAt (· == '/') path.toList).map String.ofList).filter fun s => s ≠ "" && s ≠ "."

/-- A path as it is shown: each step once. -/
def pathText (path : String) : String :=
  let lead := if Text.hasStart "/" path then "/" else ""
  let body := Text.join "/" (steps path)
  if (lead ++ body).isEmpty then "." else lead ++ body

structure Disk where
  /-- The path of the working directory. -/
  here : String
  files : List (String × List UInt8)

namespace Disk

/-- The steps of a path from the working directory on. -/
def within (d : Disk) (path : String) : List String :=
  if Text.hasStart (d.here ++ "/") path then (steps path).drop (steps d.here).length
  else steps path

def content (d : Disk) (path : String) : Content :=
  (d.files.find? fun (p, _) => steps p == d.within path).map (·.2)

def hasFile (d : Disk) (path : String) : Bool := (d.content path).isSome

/-- Whether a path is a directory: the working one, or one with a file in it. -/
def hasDirectory (d : Disk) (path : String) : Bool :=
  let there := d.within path
  there.isEmpty || d.files.any fun (p, _) =>
    there.isPrefixOf (steps p) && there.length < (steps p).length

def has (d : Disk) (path : String) : Bool := d.hasFile path || d.hasDirectory path

/-- Whether a file can be written: nothing but directories leads to it, and it is none itself. -/
def canWrite (d : Disk) (path : String) : Bool :=
  let there := d.within path
  !d.hasDirectory path && !d.files.any fun (p, _) =>
    (steps p).isPrefixOf there && (steps p).length < there.length

end Disk

end ProfileReadme.CommandLine
