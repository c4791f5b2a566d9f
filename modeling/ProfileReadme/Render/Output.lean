/-
What a render gives: sections of blocks, with a record of how they came about.
-/
import ProfileReadme.Block.Basic
import ProfileReadme.Render.Error

namespace ProfileReadme.Render

open Reader

structure Context where
  templateId : String
  theme : ColorScheme := .system
  locale : String := "en"
deriving DecidableEq, Repr, Inhabited

def Context.read : Reader Context :=
  record "render context" fun fs =>
    Context.mk <$> required "template_id" text fs <*> field "theme" .system Named.read fs
      <*> field "locale" "en" text fs

def Context.write (c : Context) : Value :=
  .obj [("template_id", .text c.templateId), ("theme", Named.write c.theme),
    ("locale", .text c.locale)]

/-- A section with its blocks. -/
structure RenderedSection where
  id : String
  type : String
  title : Option String := none
  visible : Bool := true
  order : Int := 0
  blocks : List Block := []
deriving Inhabited

def RenderedSection.read : Reader RenderedSection :=
  record "rendered section" fun fs =>
    RenderedSection.mk <$> required "id" text fs <*> required "type" text fs
      <*> optionalField "title" text fs <*> field "visible" true bool fs
      <*> field "order" 0 int fs <*> field "blocks" [] (list Block.read) fs

def RenderedSection.write (s : RenderedSection) : Value :=
  .obj [("id", .text s.id), ("type", .text s.type), ("title", .optional .text s.title),
    ("visible", .bool s.visible), ("order", .int s.order),
    ("blocks", .list (Block.writeAll s.blocks))]

structure Metadata where
  templateId : String
  templateName : String
  templateVersion : String
  rendered : Int := 0
  skipped : Int := 0
  warnings : List Warning := []
deriving DecidableEq, Repr, Inhabited

def Metadata.read : Reader Metadata :=
  record "render metadata" fun fs =>
    Metadata.mk <$> required "template_id" text fs <*> required "template_name" text fs
      <*> required "template_version" text fs <*> field "sections_rendered" 0 int fs
      <*> field "sections_skipped" 0 int fs <*> field "warnings" [] (list Warning.read) fs

def Metadata.write (m : Metadata) : Value :=
  .obj [("template_id", .text m.templateId), ("template_name", .text m.templateName),
    ("template_version", .text m.templateVersion), ("sections_rendered", .int m.rendered),
    ("sections_skipped", .int m.skipped), ("warnings", .list (m.warnings.map Warning.write))]

/-- All that one render gives. -/
structure Output where
  context : Context
  sections : List RenderedSection := []
  metadata : Metadata
deriving Inhabited

def Output.read : Reader Output :=
  record "output" fun fs =>
    Output.mk <$> required "context" Context.read fs
      <*> field "sections" [] (list RenderedSection.read) fs
      <*> required "metadata" Metadata.read fs

def Output.write (o : Output) : Value :=
  .obj [("context", o.context.write), ("sections", .list (o.sections.map RenderedSection.write)),
    ("metadata", o.metadata.write)]

end ProfileReadme.Render
