/-
Markup that was made safe is safe when it is read again: what was a text, a comment or a value stays
one, and no element or attribute appears that was not in the cleaned tree. The one exception is a
declaration with a closing bracket in it, which is written as an instruction and ends there.
-/
import ProfileReadme.Proofs.Markup.Rereading

namespace ProfileReadme.Markup

/-- Markup that is accepted is made safe for good: what comes out is accepted again, and its tree
has no unsafe element, no handler and no link that runs code, as long as no declaration that stays
holds a closing bracket. -/
theorem sanitize_safe {m : String} {nodes : List Node} (h : parse m = .ok nodes)
    (unbroken : Node.everyIn Node.isUnbroken (Node.cleanAll nodes) = true) :
    ∃ s again, sanitize m = .ok s ∧ parse s = .ok again ∧
      Node.everyIn Node.isSafe again = true := by
  have sound := Node.cleanAll_isSound nodes (parse_isEnded h) unbroken
  obtain ⟨parsed, kept⟩ := parse_written sound
  refine ⟨Node.writeAll (Node.cleanAll nodes), _, ?_, parsed, ?_⟩
  · unfold sanitize
    rw [h]
    rfl
  · exact Node.everyIn_imp Node.isSafe_of_isKept kept

/-- Handlers, links and comments in one text. -/
def mixedMarkup : String := "<p onclick=x><a href='java&#10;script:x'>a&lt;b</a><!--<script>--></p>"

theorem mixedMarkup_safe : ∃ nodes, parse mixedMarkup = .ok nodes ∧
    Node.everyIn Node.isUnbroken (Node.cleanAll nodes) = true ∧
    ∃ s again, sanitize mixedMarkup = .ok s ∧ parse s = .ok again ∧
      Node.everyIn Node.isSafe again = true := by
  have accepted : (parse mixedMarkup).toOption.any
      (fun nodes => Node.everyIn Node.isUnbroken (Node.cleanAll nodes)) = true := by
    decide +kernel
  cases h : parse mixedMarkup with
  | error rejection =>
    rw [h] at accepted
    cases accepted
  | ok nodes =>
    rw [h] at accepted
    exact ⟨nodes, rfl, accepted, sanitize_safe h accepted⟩

/-- A script in a condition, behind a bracket. -/
def conditionalScript : String := "<![if a><script>alert(1)</script>]>"

/-- The condition is written as an instruction, which its first bracket ends: the script that stood
in it is an element when the text is read again. -/
theorem conditionalScript_unsafe : ∃ s again, sanitize conditionalScript = .ok s ∧
    parse s = .ok again ∧ Node.everyIn Node.isSafe again = false := by
  have cleaned : (sanitize conditionalScript).toOption =
      some "<?if a><script>alert(1)</script>?>" := by
    decide +kernel
  have broken : (parse "<?if a><script>alert(1)</script>?>").toOption.map
      (Node.everyIn Node.isSafe) = some false := by
    decide +kernel
  cases hs : sanitize conditionalScript with
  | error rejection =>
    rw [hs] at cleaned
    cases cleaned
  | ok s =>
    rw [hs] at cleaned
    cases cleaned
    cases hp : parse "<?if a><script>alert(1)</script>?>" with
    | error rejection =>
      rw [hp] at broken
      cases broken
    | ok again =>
      rw [hp] at broken
      exact ⟨_, again, rfl, hp, Option.some.inj broken⟩

end ProfileReadme.Markup
