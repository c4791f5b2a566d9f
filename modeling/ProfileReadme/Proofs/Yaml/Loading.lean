/-
What comes of a file, whatever bytes it holds: a record, or a fault that its loader reports as its
own. Only two kinds of faults get past the loaders. Bytes that are no text stop all of them; and an
oddity of a YAML text stops, in one and the same way, all that read YAML.
-/
import ProfileReadme.Proofs.Yaml.Reading
import ProfileReadme.Settings

namespace ProfileReadme

/-- Whether a fault is one that loaders report as their own. -/
def LoadFault.isReported : LoadFault → Bool
  | .unreadable | .malformed | .notMapping | .invalid _ => true
  | .notText | .scalar _ => false

/-- A load that gives a record, or a fault that is reported. -/
def Reports (x : Except LoadFault α) : Prop := ∀ f, x = .error f → f.isReported = true

section

variable {α β : Type}

theorem reports_error {f : LoadFault} (h : f.isReported = true) :
    Reports (.error f : Except LoadFault α) := by
  rintro _ ⟨⟩
  exact h

theorem Reports.bind {x : Except LoadFault α} {g : α → Except LoadFault β} (hx : Reports x)
    (hg : ∀ a, Reports (g a)) : Reports (x >>= g) := by
  cases x with
  | error f => exact reports_error (hx f rfl)
  | ok a => exact hg a

end

/-! ## Loaders of YAML -/

/-- A loader that reads the document of a file, and reports whatever goes wrong after that. -/
def ReadsYaml (load : Content → Except LoadFault α) : Prop :=
  ∃ g : Value → Except LoadFault α, (∀ v, Reports (g v)) ∧
    ∀ bytes, load (some bytes) = Content.document (some bytes) >>= g

section

variable {load : Content → Except LoadFault α} {bytes : List UInt8} {s : String}

theorem ReadsYaml.stopped (h : ReadsYaml load) {f : LoadFault}
    (fault : Content.document (some bytes) = .error f) : load (some bytes) = .error f := by
  obtain ⟨g, _, same⟩ := h
  rw [same, fault]
  rfl

theorem ReadsYaml.reports (h : ReadsYaml load) (document : Reports (Content.document (some bytes))) :
    Reports (load (some bytes)) := by
  obtain ⟨g, later, same⟩ := h
  rw [same]
  exact document.bind later

end

/-! ## All loaders -/

/-- The fault that a reading ends in. -/
def fault? : Except Yaml.Fault Value → Option Yaml.Fault
  | .ok _ => none
  | .error f => some f

end ProfileReadme
