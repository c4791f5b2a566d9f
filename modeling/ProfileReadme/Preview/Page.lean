/-
Previews of whole outputs: a section element per section that shows anything, and the page around
them. An output that does not exist shows as a note on its errors.
-/
import ProfileReadme.Preview.Block
import ProfileReadme.Render.Output

namespace ProfileReadme

open Preview

/-! ## Sections -/

/-- The blocks that show anything, drawn in order. -/
def Preview.drawBlocks (c : Preview.Context) : List Block → Drawing (List Node)
  | [] => pure []
  | b :: bs => do
    let node ← b.draw c
    let nodes ← Preview.drawBlocks c bs
    return node.toList ++ nodes

def Render.RenderedSection.draw (c : Preview.Context) (s : Render.RenderedSection) :
    Drawing (Option Node) := do
  if s.visible then
    let nodes ← drawBlocks c s.blocks
    if nodes.isEmpty then return none
    else
      return some <| element "section"
        [("id", some s.id), ("class", some ("section section-" ++ s.type)),
          ("data-section-type", some s.type)]
        (part? s.title (classed "h2" "section-title") :: nodes.map inside) false
  else return none

/-- All sections inside one root. -/
def Render.Output.draw (c : Preview.Context) (o : Render.Output) : Drawing Node := do
  let sections ← o.sections.mapM (·.draw c)
  return element "div"
    [("class", some ("preview theme-" ++ Named.name c.theme)),
      ("data-template", some o.context.templateId)]
    ((sections.filterMap id).map inside) false

namespace Preview

/-- What stands in the place of an output that does not exist. -/
def errorNode (count : Nat) : Node :=
  let detail :=
    if count = 0 then "unknown error"
    else toString count ++ (if count = 1 then " error" else " errors")
  element "div" [("class", some "preview-error"), ("role", some "alert")]
    [inside (classed "p" "preview-error-title" "Preview unavailable"),
      inside (classed "p" "preview-error-detail"
        ("The template could not be rendered (" ++ detail ++ ")."))] false

/-! ## Pages -/

/-- The character as it stands in the text of a page. -/
def pageChar (c : Char) : List Char :=
  if c = '"' then "&#34;".toList
  else if c = '\x27' then "&#39;".toList
  else Text.contentChar c

def escapePage (s : String) : String := String.ofList (s.toList.flatMap pageChar)

/-- The style sheet of a page. -/
def styleSheet : List String :=
  ["    :root \x7b color-scheme: light dark; \x7d",
    "    body \x7b margin: 0; font-family: -apple-system, \"Segoe UI\", Helvetica, Arial, sans-serif; \x7d",
    "    [data-theme=\"light\"] body \x7b background: #ffffff; color: #1f2328; \x7d",
    "    [data-theme=\"dark\"] body \x7b background: #0d1117; color: #e6edf3; \x7d",
    "    .preview \x7b max-width: 880px; margin: 0 auto; padding: 2rem 1rem; line-height: 1.5; \x7d",
    "    .section \x7b margin-bottom: 2rem; \x7d",
    "    .section-title \x7b border-bottom: 1px solid #d0d7de; padding-bottom: .3em; \x7d",
    "    .text-left \x7b text-align: left; \x7d",
    "    .text-center \x7b text-align: center; \x7d",
    "    .text-right \x7b text-align: right; \x7d",
    "    .flex-row \x7b display: flex; justify-content: center; \x7d",
    "    .flex-wrap \x7b flex-wrap: wrap; \x7d",
    "    .flex-col \x7b display: flex; flex-direction: column; \x7d",
    "    .grid \x7b display: grid; \x7d",
    "    .gap-xs \x7b gap: .25rem; \x7d .gap-sm \x7b gap: .5rem; \x7d .gap-md \x7b gap: 1rem; \x7d",
    "    .gap-lg \x7b gap: 1.5rem; \x7d .gap-xl \x7b gap: 2rem; \x7d",
    "    .badge-container img, .social-links img \x7b margin: 2px; vertical-align: middle; \x7d",
    "    .spacer-xs \x7b height: .25rem; \x7d .spacer-sm \x7b height: .5rem; \x7d .spacer-md \x7b height: 1rem; \x7d",
    "    .spacer-lg \x7b height: 2rem; \x7d .spacer-xl \x7b height: 3rem; \x7d",
    "    .divider-dashed \x7b border-style: dashed; \x7d .divider-dotted \x7b border-style: dotted; \x7d",
    "    .list-none \x7b list-style: none; padding-left: 0; \x7d",
    "    .stats-container \x7b display: flex; gap: 1rem; \x7d",
    "    .stat \x7b display: flex; flex-direction: column; align-items: center; \x7d",
    "    .stat-value \x7b font-weight: 600; font-size: 1.25rem; \x7d",
    "    .card, .timeline-item \x7b border: 1px solid #d0d7de; border-radius: 6px; padding: 1rem; \x7d",
    "    .tech-tag \x7b font-size: .75rem; margin-right: .5rem; \x7d",
    "    .achievement \x7b display: flex; gap: .75rem; \x7d",
    "    .stat-card \x7b max-width: 100%; \x7d",
    "    .stat-card-skeleton \x7b",
    "      width: 100%; min-height: 150px; border-radius: 6px;",
    "      background: linear-gradient(90deg, #d0d7de33, #d0d7de66, #d0d7de33);",
    "    \x7d",
    "    .stat-card-skeleton[data-status=\"error\"] \x7b opacity: .4; \x7d",
    "    .preview-error \x7b border: 1px solid #cf222e; border-radius: 6px; padding: 1rem; margin: 2rem; \x7d",
    "    .preview-error-title \x7b font-weight: 600; color: #cf222e; \x7d"]

/-- A page of its own around a body. -/
def page (theme : ColorScheme) (title body : String) : String :=
  Text.join "\n" <|
    ["<!DOCTYPE html>", "<html lang=\"en\" data-theme=\"" ++ Named.name theme ++ "\">", "<head>",
      "  <meta charset=\"utf-8\">",
      "  <meta name=\"viewport\" content=\"width=device-width, initial-scale=1\">",
      "  <title>" ++ escapePage title ++ "</title>", "  <style>"]
    ++ styleSheet ++ ["  </style>", "</head>", "<body>", body, "</body>", "</html>"]

def usualTitle : String := "Profile preview"

/-- The page of an output, or of the errors that kept it from being. -/
def outputPage (c : Context) (output : Option Render.Output) (errors : Nat) (title : String) :
    Drawing String := do
  let body ← match output with
    | some o => o.draw c
    | none => pure (errorNode errors)
  return page c.theme title body.html

end Preview

end ProfileReadme
