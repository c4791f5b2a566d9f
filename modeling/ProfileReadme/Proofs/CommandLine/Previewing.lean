/-
The page that the preview command writes. The command draws its output twice, with all pending
images reported as loaded in between, so that no skeleton is left on the page unless it is asked
to leave them; the note in the place of an output that does not exist has none either.
-/
import ProfileReadme.CommandLine.Commands
import ProfileReadme.Proofs.Outcome
import ProfileReadme.Proofs.Preview.Loading
import ProfileReadme.Proofs.Schema.Rereading

namespace ProfileReadme

open Preview Preview.Drawing

/-! ## The time limit -/

theorem Reader.field_ok {name : String} {default : α} {read : Reader α} {fs : Fields} {a : α}
    (h : field name default read fs = .ok a) : a = default ∨ ∃ v, read v = .ok a := by
  unfold field at h
  split at h
  next v _ => exact .inr ⟨v, Checked.inField_eq_ok h⟩
  · exact .inl (Checked.ok.inj h).symm

theorem Reader.record_ok {shape : String} {read : Fields → Checked α} {v : Value} {a : α}
    (h : record shape read v = .ok a) : ∃ fs, read fs = .ok a := by
  unfold record at h
  split at h
  next fs _ => exact ⟨fs, h⟩
  · cases h

/-- What is read as settings waits for images at all. -/
theorem Settings.imageTimeout_positive {v : Value} {s : Settings} (h : Settings.read v = .ok s) :
    Binary64.zero.lt s.imageTimeout = true := by
  have usual : Binary64.zero.lt usualTimeout = true := by decide +kernel
  obtain ⟨fs, h⟩ := Reader.record_ok h
  obtain ⟨others, timeout, hothers, htimeout, rfl⟩ := Checked.seq_eq_ok h
  obtain ⟨first, readme, hfirst, -, rfl⟩ := Checked.seq_eq_ok hothers
  obtain ⟨render, -, rfl⟩ := Checked.map_eq_ok hfirst
  obtain rfl | ⟨v, htimeout⟩ := Reader.field_ok htimeout
  · exact usual
  obtain ⟨fs, htimeout⟩ := Reader.record_ok htimeout
  obtain rfl | ⟨v, htimeout⟩ := Reader.field_ok htimeout
  · exact usual
  obtain ⟨x, -, htimeout⟩ := Checked.andThen_eq_ok htimeout
  split at htimeout
  next positive =>
    cases htimeout
    exact positive
  · cases htimeout

namespace CommandLine

/-! ## What is written -/

/-- A plan in the place of which no file is written. -/
def Plan.Quiet (x : Plan α) : Prop :=
  ∀ acts path text, x = .error acts → Act.write path text ∉ acts

theorem quiet_ok (a : α) : Plan.Quiet (.ok a) := nofun

theorem quiet_fail (message : Option String) : (fail message : Plan α).Quiet := by
  rintro acts path text ⟨⟩ mem
  cases message <;> simp [failure] at mem

theorem Plan.Quiet.bind {x : Plan α} {f : α → Plan β} (hx : x.Quiet) (hf : ∀ a, (f a).Quiet) :
    Plan.Quiet (x >>= f) := by
  intro acts path text h
  cases x with
  | error acts' =>
    cases h
    exact hx acts path text rfl
  | ok a => exact hf a acts path text h

/-- What is written is written after such a plan. -/
theorem Plan.Quiet.mem_acts {x : Plan α} {f : α → Plan (List Act)} {path text : String}
    (hx : x.Quiet) (h : .write path text ∈ Plan.acts (x >>= f)) :
    ∃ a, x = .ok a ∧ .write path text ∈ Plan.acts (f a) := by
  cases x with
  | error acts => exact absurd h (hx acts path text rfl)
  | ok a => exact ⟨a, rfl, h⟩

theorem templateOf_quiet (d : Disk) (reference : String) : (templateOf d reference).Quiet := by
  unfold templateOf
  split
  · exact quiet_ok _
  · exact quiet_fail _

theorem profileOf_quiet (d : Disk) (path : Option String) : (profileOf d path).Quiet := by
  unfold profileOf
  split
  · exact quiet_ok _
  · split
    · exact quiet_ok _
    · exact quiet_fail _

theorem inputsOf_quiet (d : Disk) (i : Inputs) : (inputsOf d i).Quiet := by
  refine (templateOf_quiet d i.template).bind fun t => ?_
  refine (profileOf_quiet d i.profile).bind fun p => ?_
  split <;> exact quiet_ok _

theorem settingsOf_quiet (d : Disk) (o : Settings.Overrides) : (settingsOf d o).Quiet := by
  unfold settingsOf
  dsimp only
  split
  · exact quiet_fail _
  · exact quiet_fail _
  · exact quiet_fail _
  · exact quiet_fail _
  · split
    · exact quiet_ok _
    · exact quiet_fail _

theorem settingsOf_positive {d : Disk} {o : Settings.Overrides} {s : Settings}
    (h : settingsOf d o = .ok s) : Binary64.zero.lt s.imageTimeout = true := by
  unfold settingsOf at h
  dsimp only at h
  split at h
  · cases h
  · cases h
  · cases h
  · cases h
  · split at h
    next read =>
      cases h
      exact Settings.imageTimeout_positive read
    · cases h

theorem not_mem_reportResult (r : Render.Result) (shown : Option String) (path text : String) :
    Act.write path text ∉ reportResult r shown := by
  unfold reportResult errorLines
  cases r.output <;> cases r.errors <;> simp

/-- The preview command writes one file, with the page of a render. -/
theorem write_mem_preview {d : Disk} {a : PreviewArguments} {path text : String} :
    .write path text ∈ preview d a ↔ path = a.output ∧ ∃ t p s,
      inputsOf d a.inputs = .ok (t, p) ∧
        settingsOf d { theme := a.theme.map .text } = .ok s ∧
          pageOf t (Render.render .usual t p s.render) s a = .ok text := by
  constructor
  · intro h
    obtain ⟨⟨t, p⟩, hi, h⟩ := (inputsOf_quiet d a.inputs).mem_acts h
    obtain ⟨s, hs, h⟩ := (settingsOf_quiet d _).mem_acts h
    dsimp only at h
    cases hpage : pageOf t (Render.render .usual t p s.render) s a with
    | error fault =>
      rw [hpage] at h
      exact absurd h (quiet_fail (α := List Act) none _ path text rfl)
    | ok page =>
      rw [hpage] at h
      have first : Act.write path text ∈ [Act.write a.output page] := by
        dsimp only at h
        split at h
        · exact (List.mem_cons.1 h).elim (by rintro ⟨⟩; simp) (by simp [success])
        · refine (List.mem_cons.1 h).elim (by rintro ⟨⟩; simp) fun h => ?_
          exact absurd h (by simp [not_mem_reportResult, caution])
      cases List.mem_singleton.1 first
      exact ⟨rfl, t, p, s, hi, hs, hpage⟩
  · rintro ⟨rfl, t, p, s, hi, hs, hpage⟩
    unfold preview
    rw [hi]
    show _ ∈ Plan.acts (settingsOf d _ >>= _)
    rw [hs]
    dsimp only [bind, Except.bind]
    rw [hpage]
    dsimp only
    split <;> exact List.mem_cons_self ..

/-! ## The page -/

variable {t : Template} {result : Render.Result} {s : Settings} {a : PreviewArguments}
  {text : String}

theorem errorNode_isBare (count : Nat) : (errorNode count).IsBare := by
  refine isBare_of_cards ?_
  unfold errorNode
  rw [cards_element (by simp [isSourceAttr])]
  simp

/-- The page of a render. -/
theorem pageOf_loaded (positive : Binary64.zero.lt s.imageTimeout = true)
    (loads : a.skeletons = false) (h : pageOf t result s a = .ok text) :
    ∃ theme title, ∃ n : Node, text = page theme title n.html ∧ n.IsBare := by
  unfold pageOf at h
  cases output : result.output with
  | none =>
    rw [output] at h
    cases h
    exact ⟨_, _, errorNode result.errors.length, rfl, errorNode_isBare _⟩
  | some out =>
    rw [output, loads] at h
    obtain ⟨t', hrun⟩ := outcome_ok.1 h
    obtain ⟨first, images, drawn, hrun⟩ := bind_run_ok hrun
    obtain ⟨_, _, ⟨⟩, hrun⟩ := bind_run_ok hrun
    obtain ⟨second, _, again, hrun⟩ := bind_run_ok hrun
    cases hrun
    have loaded := Render.Output.draw_again positive drawn
    have same : second = first.loaded :=
      Except.ok.inj ((outcome_ok.2 ⟨_, again⟩).symm.trans loaded.1)
    exact ⟨_, _, second, rfl, same ▸ loaded.2⟩

/-- Drawn once more after all that is pending has loaded, an output gives the tree that it gave at
first, with the image itself in the place of every skeleton that waits for one; and what the
preview command writes is a page without skeletons, unless it is asked to leave them. -/
theorem pages_loaded :
    (∀ (c : Preview.Context) (out : Render.Output) (timeout now : Binary64) (first : Node)
      (images : Tracker), Binary64.zero.lt timeout = true →
        (out.draw c).run { timeout, now } = (.ok first, images) →
          (out.draw c).outcome images.loadPending.2 = .ok first.loaded ∧ first.loaded.IsBare) ∧
    ∀ (d : Disk) (a : PreviewArguments) (path text : String), a.skeletons = false →
      .write path text ∈ preview d a →
        ∃ theme title, ∃ n : Node, text = page theme title n.html ∧ n.IsBare := by
  refine ⟨fun c out timeout now first images positive drawn =>
    Render.Output.draw_again positive drawn, fun d a path text loads written => ?_⟩
  obtain ⟨-, t, p, s, -, hs, hpage⟩ := write_mem_preview.1 written
  exact pageOf_loaded (settingsOf_positive hs) loads hpage

open Element in
/-- A card, once more under another name in a list, and another image of one's own. -/
def gallery : Render.Output :=
  let card : Block := .element "c" true (.statsCard { username := "me" })
  { context := { templateId := "t" },
    metadata := { templateId := "t", templateName := "T", templateVersion := "1" },
    sections := [{ id := "s", type := "github-stats", blocks :=
      [card,
       .list "l" true .unordered [.text "Also" none [.block card none []]],
       .element "d" true (.custom
        { customType := "chart",
          data := [(.name "image_url", .text (StatsCard.imageUrl { username := "me" })),
            (.name "alt", .text "The same")] }),
       .element "e" true (.custom
        { customType := "chart", data := [(.name "image_url", .text "https://e.example/e")] })] }] }

/-- A preview of a template that is there from the start. -/
def visit : PreviewArguments :=
  { inputs := { template := "minimal-professional", username := some "me" } }

theorem visit_written : ∃ text, .write "preview.html" text ∈ preview ⟨"/w", []⟩ visit := by
  let t := Catalog.minimalProfessional
  let p : Profile := { githubUsername := "me" }
  have inputs : inputsOf ⟨"/w", []⟩ visit.inputs = .ok (t, p) := by rfl
  have ordered : t.displayed = t.sections := List.mergeSort_of_pairwise (by decide)
  have there : ((settingsOf ⟨"/w", []⟩ { theme := none }).toOption.bind fun s =>
      (pageOf t (Render.render .usual t p s.render) s visit).toOption).isSome = true := by
    unfold Render.render
    rw [ordered]
    decide +kernel
  obtain ⟨text, h⟩ := Option.isSome_iff_exists.1 there
  obtain ⟨s, hs, hpage⟩ := Option.bind_eq_some_iff.1 h
  exact ⟨text, write_mem_preview.2
    ⟨rfl, t, p, s, inputs, ok_of_toOption hs, ok_of_toOption hpage⟩⟩

theorem gallery_visit_loaded :
    (∃ first images, (gallery.draw {}).run {} = (.ok first, images) ∧
      images.pending.1.length = 2 ∧
      (gallery.draw {}).outcome images.loadPending.2 = .ok first.loaded ∧
      first.loaded.IsBare ∧ ¬ first.IsBare) ∧
    ∃ text theme title, ∃ n : Node, .write "preview.html" text ∈ preview ⟨"/w", []⟩ visit ∧
      text = page theme title n.html ∧ n.IsBare := by
  constructor
  · have waiting : ((gallery.draw {}).run {}).2.pending.1.length = 2 := by decide +kernel
    have shown : (((gallery.draw {}).run {}).1.toOption.any fun n =>
      n.walk.any fun m => (skeletonOf? m.attrs).isSome) = true := by decide +kernel
    obtain ⟨first, hfirst, shown⟩ := (Option.any_eq_true _ _).1 shown
    obtain ⟨images, drawn⟩ := outcome_ok.1 (ok_of_toOption hfirst)
    rw [drawn] at waiting
    obtain ⟨again, bare⟩ := pages_loaded.1 {} gallery usualTimeout .zero first images
      (by decide +kernel) drawn
    refine ⟨first, images, drawn, waiting, again, bare, fun none => ?_⟩
    obtain ⟨m, hm, skeleton⟩ := List.any_eq_true.1 shown
    rw [none m hm] at skeleton
    cases skeleton
  · obtain ⟨text, written⟩ := visit_written
    obtain ⟨theme, title, n, shown, bare⟩ := pages_loaded.2 _ visit _ text rfl written
    exact ⟨text, theme, title, n, written, shown, bare⟩

end CommandLine

end ProfileReadme
