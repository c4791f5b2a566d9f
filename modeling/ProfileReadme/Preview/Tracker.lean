/-
The images of cards while they load. An image settles once: loaded, or failed, by a report or by
running out of time. Time is a clock that the tracker carries.
-/
import ProfileReadme.Schema.Named

namespace ProfileReadme

/-- Whether two values are one key: equal texts, equal bytes, or equal numbers. -/
def Value.sameKey : Value → Value → Bool
  | .text a, .text b => a = b
  | .bytes a, .bytes b => a = b
  | .null, .null => true
  | a, b =>
    match units? a, units? b with
    | some x, some y => x = y
    | _, _ => false
where
  /-- A number in units of which every number is a whole multiple. -/
  units? : Value → Option Int
    | .bool b => some (if b then Binary64.unitsOfOne else 0)
    | .int n => some (n * Binary64.unitsOfOne)
    | .real x => x.units
    | _ => none

/-- Whether a value can be a key: lists and objects cannot. -/
def Value.isKey : Value → Bool
  | .list _ | .object _ | .record .. => false
  | _ => true

namespace Preview

inductive ImageStatus where
  | loading | loaded | failed
deriving DecidableEq, Repr, Inhabited

instance : Named ImageStatus where
  all := [.loading, .loaded, .failed]
  name
    | .loading => "loading"
    | .loaded => "loaded"
    | .failed => "error"

instance : Named.Lawful ImageStatus := ⟨by intro a; cases a <;> decide⟩

/-- An image of a card, known by its source. -/
structure CardImage where
  src : Value
  alt : Value
  card : String
  started : Binary64
  status : ImageStatus := .loading
deriving Inhabited

/-- Three seconds. -/
def usualTimeout : Binary64 := .ofInt 3

/-- The images of one preview, in the order in which they came. -/
structure Tracker where
  timeout : Binary64 := usualTimeout
  now : Binary64 := .zero
  images : List CardImage := []
deriving Inhabited

namespace CardImage

/-- The time since the image came. -/
def elapsed (i : CardImage) (now : Binary64) : Binary64 := now.sub i.started

/-- The image as someone who looks at it finds it: out of time, it has failed. -/
def seen (i : CardImage) (timeout now : Binary64) : CardImage :=
  if i.status = .loading && timeout.le (i.elapsed now) then { i with status := .failed } else i

/-- The image after a report, which counts while it is loading. -/
def settle (i : CardImage) (timeout now : Binary64) (outcome : ImageStatus) : CardImage :=
  let i := i.seen timeout now
  if i.status = .loading then { i with status := outcome } else i

end CardImage

namespace Tracker

def find? (t : Tracker) (src : Value) : Option CardImage := t.images.find? (·.src.sameKey src)

def update (t : Tracker) (src : Value) (f : CardImage → CardImage) : Tracker :=
  { t with images := t.images.map fun i => if i.src.sameKey src then f i else i }

/-- Looks at an image. -/
def observe (t : Tracker) (src : Value) : Option CardImage × Tracker :=
  let t := t.update src (·.seen t.timeout t.now)
  (t.find? src, t)

/-- An image that is tracked from now on, unless it is already. -/
def track (t : Tracker) (src alt : Value) (card : String) : Tracker :=
  match t.find? src with
  | some _ => t
  | none => { t with images := t.images ++ [{ src, alt, card, started := t.now }] }

/-- A report on an image. -/
def mark (t : Tracker) (src : Value) (outcome : ImageStatus) : Tracker :=
  t.update src (·.settle t.timeout t.now outcome)

def advance (t : Tracker) (seconds : Binary64) : Tracker := { t with now := t.now.add seconds }

/-- Looks at every image; those that are still loading. -/
def pending (t : Tracker) : List CardImage × Tracker :=
  let t := { t with images := t.images.map (·.seen t.timeout t.now) }
  (t.images.filter (·.status == .loading), t)

/-- All pending images are reported as loaded. -/
def loadPending (t : Tracker) : Nat × Tracker :=
  let (waiting, t) := t.pending
  (waiting.length, waiting.foldl (fun t i => t.mark i.src .loaded) t)

/-- Reports that come while someone waits. -/
def report (t : Tracker) (reports : List (Value × ImageStatus)) : Tracker :=
  reports.foldl (fun t (src, outcome) => t.mark src outcome) t

/-- Waits for an image: what no report settles has failed. -/
def wait (t : Tracker) (src : Value) (reports : List (Value × ImageStatus)) : Tracker :=
  ((t.observe src).2.report reports).mark src .failed

/-- Waits for all images. -/
def waitAll (t : Tracker) (reports : List (Value × ImageStatus)) : Tracker :=
  let t := t.pending.2.report reports
  t.images.foldl (fun t i => t.mark i.src .failed) t

end Tracker

end Preview

end ProfileReadme
