/-
Outputs read back from what is written of them. What was read from JSON, or rendered from such
blocks, is written as JSON and comes back as it was.
-/
import ProfileReadme.Proofs.Block.Json
import ProfileReadme.Render.Output

namespace ProfileReadme.Render

@[simp] theorem Context.read_write (c : Context) : Context.read c.write = .ok c := by
  simp [Context.read, Context.write]

@[simp] theorem Context.isJson (c : Context) : c.write.IsJson := by
  simp [Context.write]

@[simp] theorem Warning.read_write (w : Warning) : Warning.read w.write = .ok w := by
  simp [Warning.read, Warning.write]

@[simp] theorem Warning.isJson (w : Warning) : w.write.IsJson := by
  simp [Warning.write]

@[simp] theorem Metadata.read_write (m : Metadata) : Metadata.read m.write = .ok m := by
  simp [Metadata.read, Metadata.write]

@[simp] theorem Metadata.isJson (m : Metadata) : m.write.IsJson := by
  simp [Metadata.write]

@[simp] theorem RenderedSection.read_write (s : RenderedSection) :
    RenderedSection.read s.write = .ok s := by
  simp [RenderedSection.read, RenderedSection.write, Block.writeAll_eq_map]

theorem RenderedSection.isJson {s : RenderedSection} (h : ∀ b ∈ s.blocks, b.write.IsJson) :
    s.write.IsJson := by
  simpa [RenderedSection.write, Block.writeAll_eq_map] using h

@[simp] theorem Output.read_write (o : Output) : Output.read o.write = .ok o := by
  simp [Output.read, Output.write]

theorem Output.isJson {o : Output} (h : ∀ s ∈ o.sections, ∀ b ∈ s.blocks, b.write.IsJson) :
    o.write.IsJson := by
  have sections : ∀ s ∈ o.sections, s.write.IsJson := fun s hs => RenderedSection.isJson (h s hs)
  simpa [Output.write] using sections

/-- A block read from JSON is written as JSON that is read as the block, and so is an output of such
blocks. -/
theorem blocks_round_trip :
    (∀ (v : Value) (b : Block), v.IsJson → Block.read v = .ok b →
      b.write.IsJson ∧ Block.read b.write = .ok b) ∧
    ∀ o : Output,
      (∀ s ∈ o.sections, ∀ b ∈ s.blocks, ∃ v : Value, v.IsJson ∧ Block.read v = .ok b) →
        o.write.IsJson ∧ Output.read o.write = .ok o := by
  refine ⟨fun v b hv h => ⟨Block.isJson_of_read hv h, b.read_write⟩, fun o h => ⟨?_, o.read_write⟩⟩
  refine Output.isJson fun s hs b hb => ?_
  obtain ⟨v, hv, hread⟩ := h s hs b hb
  exact Block.isJson_of_read hv hread

/-- A list whose item holds a row of a figure with a fraction and of other content with data, and
a text below the item. -/
def scoreValue : Value :=
  .obj [("kind", .text "list"), ("id", .text "l"),
    ("items", .list
      [.obj [("content", .obj [("kind", .text "row"), ("id", .text "r"),
          ("children", .list
            [.obj [("kind", .text "stat"), ("id", .text "s"), ("label", .text "Score"),
                ("value", .real (.finite false 3 (-1)))],
              .obj [("kind", .text "custom"), ("id", .text "c"), ("custom_type", .text "chart"),
                ("data", .obj [("bars", .list [.int 1, .null])])]])]),
        ("nested", .list [.obj [("content", .text "below")]])]])]

/-- The block of it. -/
def scoreBlock : Block :=
  .list "l" true .unordered
    [.block (.stack "r" true (.row .center .center .md true)
        [.element "s" true (.stat { label := "Score", value := .real (.finite false 3 (-1)) }),
          .element "c" true <| .custom
            { customType := "chart", data := [(.name "bars", .list [.int 1, .null])] }])
      none [.text "below" none []]]

def scoreOutput : Output :=
  { context := { templateId := "t" },
    sections := [{ id := "scores", type := "custom", blocks := [scoreBlock] }],
    metadata := { templateId := "t", templateName := "T", templateVersion := "1.0.0" } }

theorem score_read : Block.read scoreValue = .ok scoreBlock := rfl

theorem score_isJson : scoreValue.IsJson := by
  simp [scoreValue, Value.IsJson.real]

theorem scores_round_trip :
    scoreBlock.write.IsJson ∧ Block.read scoreBlock.write = .ok scoreBlock ∧
      scoreOutput.write.IsJson ∧ Output.read scoreOutput.write = .ok scoreOutput := by
  obtain ⟨blocks, outputs⟩ := blocks_round_trip
  obtain ⟨isJson, back⟩ := blocks scoreValue scoreBlock score_isJson score_read
  refine ⟨isJson, back, outputs scoreOutput fun s hs b hb => ?_⟩
  obtain rfl := List.mem_singleton.1 hs
  obtain rfl := List.mem_singleton.1 hb
  exact ⟨scoreValue, score_isJson, score_read⟩

end ProfileReadme.Render
