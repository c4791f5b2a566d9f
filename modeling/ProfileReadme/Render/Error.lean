/-
What goes wrong in a render: the causes, and the records that report them.
-/
import ProfileReadme.Markup.Token
import ProfileReadme.Schema.Record
import ProfileReadme.Section.Kind
import ProfileReadme.Text.Quoted

namespace ProfileReadme

open Reader

namespace Render

/-- The code of a report. -/
inductive ErrorCode where
  | validationFailed | duplicateSectionId | emptySectionId | sectionUnsupported
  | sectionLimitExceeded | sectionRenderFailed | githubUsernameRequired
deriving DecidableEq, Repr, Inhabited

instance : Named ErrorCode where
  all := [.validationFailed, .duplicateSectionId, .emptySectionId, .sectionUnsupported,
    .sectionLimitExceeded, .sectionRenderFailed, .githubUsernameRequired]
  name
    | .validationFailed => "VALIDATION_FAILED"
    | .duplicateSectionId => "DUPLICATE_SECTION_ID"
    | .emptySectionId => "EMPTY_SECTION_ID"
    | .sectionUnsupported => "SECTION_UNSUPPORTED"
    | .sectionLimitExceeded => "SECTION_LIMIT_EXCEEDED"
    | .sectionRenderFailed => "SECTION_RENDER_FAILED"
    | .githubUsernameRequired => "GITHUB_USERNAME_REQUIRED"

instance : Named.Lawful ErrorCode := ⟨by intro a; cases a <;> decide⟩

/-- Whether a report is about the template or about the building of a section. -/
inductive ErrorCategory where
  | validation | building
deriving DecidableEq, Repr, Inhabited

instance : Named ErrorCategory where
  all := [.validation, .building]
  name
    | .validation => "validation"
    | .building => "section"

instance : Named.Lawful ErrorCategory := ⟨by intro a; cases a <;> decide⟩

/-- A report of one failure. -/
structure Error where
  code : ErrorCode
  message : String
  category : ErrorCategory
  recoverable : Bool := false
  sectionId : Option String := none
  sectionType : Option String := none
  details : Fields := []
deriving Inhabited

def Error.read : Reader Error :=
  record "error" fun fs =>
    Error.mk <$> required "code" (Named.readOr .notMember) fs <*> required "message" text fs
      <*> required "category" Named.read fs <*> field "recoverable" false bool fs
      <*> optionalField "section_id" text fs <*> optionalField "section_type" text fs
      <*> field "details" [] object fs

def Error.write (e : Error) : Value :=
  .obj [("code", Named.write e.code), ("message", .text e.message),
    ("category", Named.write e.category), ("recoverable", .bool e.recoverable),
    ("section_id", .optional .text e.sectionId), ("section_type", .optional .text e.sectionType),
    ("details", .object e.details)]

/-- A note on what was left out. -/
structure Warning where
  code : String
  message : String
  sectionId : Option String := none
deriving DecidableEq, Repr, Inhabited

def Warning.read : Reader Warning :=
  record "warning" fun fs =>
    Warning.mk <$> required "code" text fs <*> required "message" text fs
      <*> optionalField "section_id" text fs

def Warning.write (w : Warning) : Value :=
  .obj [("code", .text w.code), ("message", .text w.message),
    ("section_id", .optional .text w.sectionId)]

/-- The note on the section that an error left out. -/
def Error.warning (e : Error) (id : String) : Warning := ⟨Named.name e.code, e.message, some id⟩

/-! ## Templates that do not fit -/

/-- A text field of a template's metadata that must not be blank. -/
inductive MetadataField where
  | id | name
deriving DecidableEq, Repr

def MetadataField.label : MetadataField → String
  | .id => "id"
  | .name => "name"

def MetadataField.issue (f : MetadataField) : String := "Template " ++ f.label ++ " is required"

/-- Why a template cannot be rendered. -/
inductive Misfit where
  | blank (fields : List MetadataField)
  | tooMany (limit : Int) (count : Nat) (template : String)
  | emptyId (index : Nat) (kind : SectionKind)
  | duplicate (id : String) (kind : SectionKind)
  | unsupported (id : String) (kind : SectionKind) (template : String)
      (supported : List SectionKind)
deriving DecidableEq, Repr

def named (pairs : List (String × Value)) : Fields := pairs.map fun (k, v) => (.name k, v)

/-- The report of a misfit. -/
def Misfit.report : Misfit → Error
  | .blank fields =>
    let issues := fields.map MetadataField.issue
    { code := .validationFailed, category := .validation,
      message := "Validation failed with " ++ toString issues.length ++ " issue(s): "
        ++ Text.join "; " issues,
      details := named [("issues", .texts issues)] }
  | .tooMany limit count template =>
    { code := .sectionLimitExceeded, category := .validation,
      message := "Template '" ++ template ++ "' allows at most " ++ toString limit
        ++ " sections, found " ++ toString count,
      details := named [("max_sections", .int limit), ("actual_sections", .int count)] }
  | .emptyId index kind =>
    { code := .emptySectionId, category := .validation,
      message := "Section at position " ++ toString index ++ " has an empty id",
      sectionType := some (Named.name kind), details := named [("index", .int index)] }
  | .duplicate id kind =>
    { code := .duplicateSectionId, category := .validation,
      message := "Duplicate section id '" ++ id ++ "'", sectionId := some id,
      sectionType := some (Named.name kind) }
  | .unsupported id kind template supported =>
    { code := .sectionUnsupported, category := .validation,
      message := "Section type '" ++ Named.name kind ++ "' is not supported by template '"
        ++ template ++ "'",
      sectionId := some id, sectionType := some (Named.name kind),
      details := named
        [("template_id", .text template),
          ("supported_sections", .list (supported.map Named.write))] }

/-! ## Sections that cannot be built -/

/-- Why a section cannot be built. -/
inductive Failure where
  | noAccount
  | noCodingAccount
  | markup (rejection : Markup.Rejection)
  | noBuilder (type : String) (available : List String)
  /-- A builder gave up for a reason of its own. It may blame a section, by id and type, other than
  the one it was to build. -/
  | gaveUp (code : ErrorCode) (reason : String) (blamed : Option (String × String) := none)

namespace Failure

/-- What is said of a type without a builder. -/
def missingBuilder (type : String) (available : List String) : String :=
  let names := Text.join ", " (available.mergeSort (· ≤ ·))
  "No builder for section type '" ++ type ++ "'. Available: "
    ++ (if names.isEmpty then "(none)" else names)

def code : Failure → ErrorCode
  | .noAccount => .githubUsernameRequired
  | .gaveUp code _ _ => code
  | _ => .sectionRenderFailed

def cause : Failure → String
  | .noAccount => "GitHub username required"
  | .noCodingAccount => "WakaTime username required"
  | .markup r => r.message
  | .noBuilder type available => Text.quoted (missingBuilder type available)
  | .gaveUp _ reason _ => reason

/-- The id and the type of the section at fault: the one to build, if the builder blames none. -/
def culprit (f : Failure) (id : String) (kind : SectionKind) : String × String :=
  match f with
  | .gaveUp _ _ (some blamed) => blamed
  | _ => (id, Named.name kind)

/-- The report of a section that could not be built. -/
def report (f : Failure) (id : String) (kind : SectionKind) : Error :=
  let (id, type) := f.culprit id kind
  { code := f.code, category := .building, recoverable := true, sectionId := some id,
    sectionType := some type,
    message := "Failed to render section '" ++ id ++ "' of type '" ++ type ++ "': " ++ f.cause,
    details := named [("cause", .text f.cause)] }

end Failure

end Render

end ProfileReadme
