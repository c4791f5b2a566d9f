import ProfileReadme.Main
import ProfileReadme.Proofs.Render.Sections
import ProfileReadme.Proofs.Block.Exported
import ProfileReadme.Proofs.Preview.Drawing
import ProfileReadme.Proofs.Preview.Shown
import ProfileReadme.Proofs.Block.Making
import ProfileReadme.Proofs.Render.Built
import ProfileReadme.Proofs.Preview.Sections
import ProfileReadme.Proofs.Store.Batching
import ProfileReadme.Proofs.Number.Digits
import ProfileReadme.Proofs.Store.Outdated
import ProfileReadme.Proofs.Schema.Rereading
import ProfileReadme.Proofs.Value.JsonText
import ProfileReadme.Proofs.Section.Written
import ProfileReadme.Proofs.Template.Written
import ProfileReadme.Proofs.Time.Written
import ProfileReadme.Proofs.Profile.Written
import ProfileReadme.Proofs.Store.Saving
import ProfileReadme.Proofs.Preview.Raw
import ProfileReadme.Proofs.Markup.Building
import ProfileReadme.Proofs.Markup.Ended
import ProfileReadme.Proofs.Markup.Quoting
import ProfileReadme.Proofs.Markup.Reading
import ProfileReadme.Proofs.Markup.Safe
import ProfileReadme.Proofs.Store.Framing
import ProfileReadme.Proofs.Render.Failing
import ProfileReadme.Proofs.Render.Foreseen
import ProfileReadme.Proofs.Value.Json
import ProfileReadme.Proofs.Block.Json
import ProfileReadme.Proofs.Render.Written
import ProfileReadme.Proofs.Preview.Failing
import ProfileReadme.Proofs.Preview.Surviving
import ProfileReadme.Proofs.Render.Strict
import ProfileReadme.Proofs.Text.Trimming
import ProfileReadme.Proofs.Markdown.Document
import ProfileReadme.Proofs.Number.Rounding
import ProfileReadme.Proofs.Preview.Settling
import ProfileReadme.Proofs.Yaml.Scanning
import ProfileReadme.Proofs.Yaml.Reading
import ProfileReadme.Proofs.Yaml.Loading
import ProfileReadme.Proofs.Block.Pruned
import ProfileReadme.Proofs.Preview.Pruned
import ProfileReadme.Proofs.Preview.Linking
import ProfileReadme.Proofs.Preview.Tagged
import ProfileReadme.Proofs.Store.Serving
import ProfileReadme.Proofs.Render.Misfits
import ProfileReadme.Proofs.Schema.Shape
import ProfileReadme.Proofs.Section.Shapes
import ProfileReadme.Proofs.Section.Reading
import ProfileReadme.Proofs.Store.Descent
import ProfileReadme.Proofs.Block.Labels
import ProfileReadme.Proofs.Render.Labels
import ProfileReadme.Proofs.Render.Distinct
import ProfileReadme.Proofs.Block.Shapes
import ProfileReadme.Proofs.Render.Total
import ProfileReadme.Proofs.Template.Moving
import ProfileReadme.Proofs.Store.Rejecting
import ProfileReadme.Proofs.Template.Mapped
import ProfileReadme.Proofs.Store.Commuting
import ProfileReadme.Proofs.Preview.Cards
import ProfileReadme.Proofs.Preview.Tracking
import ProfileReadme.Proofs.CommandLine.Previewing
import ProfileReadme.Proofs.Preview.Bullets
import ProfileReadme.Proofs.Render.Numbered
import ProfileReadme.Proofs.Render.Entries
import ProfileReadme.Proofs.Render.Grouping
import ProfileReadme.Proofs.Render.Limits
import ProfileReadme.Proofs.Text.Substitution
import ProfileReadme.Proofs.Render.Binding
import ProfileReadme.Proofs.Markdown.Destination
import ProfileReadme.Proofs.Url.Delimiters
import ProfileReadme.Proofs.Markdown.Alternative
import ProfileReadme.Proofs.Markdown.Code
import ProfileReadme.Proofs.Text.Nesting
import ProfileReadme.Proofs.Url.Percent
import ProfileReadme.Proofs.Url.Fields
import ProfileReadme.Proofs.Url.Parameters
import ProfileReadme.Proofs.Markdown.LineEnds
import ProfileReadme.Proofs.Block.Reached
import ProfileReadme.Proofs.Preview.Markup
import ProfileReadme.Proofs.Markdown.Quote
import ProfileReadme.Proofs.Value.Merging
import ProfileReadme.Block.Traversal
import ProfileReadme.Proofs.Block.Routes
