import MemShell.Proofs.Session.Action

/-!
# Edits that are not saved

While an editor is open, text replaces its buffer, a command line is refused and a key that is no
control input is passed by. So all that such input can change is the buffer (`state_unsaved`), and
leaving the editor drops the buffer: what was done since the last save might as well not have been
done. This is so in every place of a run, so two runs that differ only in such input, as
`SameButUnsaved` has it, end in the same session (`SameButUnsaved.state_eq`). `exit_discards` states
both.
-/

namespace MemShell.Session

/-- Input to an open editor that is lost unless a save follows: text, a command line, and a key that
is neither Ctrl+S nor Ctrl+X. -/
def Action.IsUnsaved : Action → Prop
  | .editorInput _ | .submit _ => True
  | .editorKey ctrl key => ctrl = false ∨ key ∉ ["s", "S", "x", "X"]
  | .execute _ | .editorCommand _ | .setView _ | .createFolder _ => False

/-- From the session on, two runs do the same but for edits that are not saved before the editor is
left, and for command lines that are refused. -/
inductive SameButUnsaved : Session → List Action → List Action → Prop
  | refl (s : Session) (actions : List Action) : SameButUnsaved s actions actions
  | symm {s : Session} {actions others : List Action} (h : SameButUnsaved s actions others) :
    SameButUnsaved s others actions
  | trans {s : Session} {actions others more : List Action} (h : SameButUnsaved s actions others)
    (h' : SameButUnsaved s others more) : SameButUnsaved s actions more
  | cons {s : Session} (action : Action) {actions others : List Action}
    (h : SameButUnsaved (s.act action).state actions others) :
    SameButUnsaved s (action :: actions) (action :: others)
  | refused {s : Session} (hediting : s.isEditing = true) (line : String) (actions : List Action) :
    SameButUnsaved s (.submit line :: actions) actions
  | unsaved {s : Session} (hediting : s.isEditing = true) {edits : List Action}
    (hedits : ∀ action ∈ edits, action.IsUnsaved) {exit : Action}
    (hexit : exit.control? = some .exit) (actions : List Action) :
    SameButUnsaved s (edits ++ exit :: actions) (exit :: actions)

variable {s : Session} {editor : Editor}

theorem exists_editor (h : s.isEditing = true) : ∃ editor, s.mode = .editing editor := by
  cases hmode : s.mode with
  | prompting =>
    rw [isEditing_of_prompting hmode] at h
    cases h
  | editing editor => exact ⟨editor, rfl⟩

/-! ## Single steps -/

theorem ofKey?_of_isUnsaved {ctrl : Bool} {key : String}
    (h : (Action.editorKey ctrl key).IsUnsaved) : EditorCommand.ofKey? ctrl key = none := by
  unfold EditorCommand.ofKey?
  rcases h with rfl | hkey
  · rfl
  · simp only [List.mem_cons, List.not_mem_nil, or_false, not_or] at hkey
    obtain ⟨hs, hS, hx, hX⟩ := hkey
    simp [hs, hS, hx, hX]

theorem eq_setBuffer_self (hmode : s.mode = .editing editor) :
    s = { s with mode := .editing (editor.setBuffer editor.buffer) } := by
  have hediting : s.mode = .editing (editor.setBuffer editor.buffer) := hmode
  rw [← hediting]

/-- All that is changed is the buffer, if anything. -/
theorem act_of_isUnsaved (hmode : s.mode = .editing editor) {action : Action}
    (h : action.IsUnsaved) :
    ∃ buffer, (s.act action).state = { s with mode := .editing (editor.setBuffer buffer) } := by
  have hsame := eq_setBuffer_self hmode
  cases action with
  | editorInput text =>
    refine ⟨text, ?_⟩
    simp only [act, editorInput, hmode]
  | submit line => exact ⟨editor.buffer, (submit_of_editing hmode line).trans hsame⟩
  | editorKey ctrl key =>
    exact ⟨editor.buffer, (act_editorKey_of_none (ofKey?_of_isUnsaved h)).trans hsame⟩
  | execute | editorCommand | setView | createFolder => exact absurd h id

theorem act_exit (hmode : s.mode = .editing editor) {exit : Action}
    (hexit : exit.control? = some .exit) : (s.act exit).state = { s with mode := .prompting } := by
  rw [act_of_control hexit, editorCommand, hmode]

/-! ## Whole runs -/

theorem state_unsaved (hmode : s.mode = .editing editor) {edits : List Action}
    (hedits : ∀ action ∈ edits, action.IsUnsaved) :
    ∃ buffer, Run.state act s edits = { s with mode := .editing (editor.setBuffer buffer) } := by
  induction edits generalizing s editor with
  | nil =>
    rw [Run.state_nil]
    exact ⟨editor.buffer, eq_setBuffer_self hmode⟩
  | cons action edits ih =>
    obtain ⟨hfirst, hrest⟩ := List.forall_mem_cons.1 hedits
    obtain ⟨first, hact⟩ := act_of_isUnsaved hmode hfirst
    have hopen : (s.act action).state.mode = .editing (editor.setBuffer first) := by rw [hact]
    obtain ⟨last, hlast⟩ := ih hopen hrest
    refine ⟨last, ?_⟩
    rw [Run.state_cons, hlast, hact]
    rfl

theorem state_unsaved_exit (hmode : s.mode = .editing editor) {edits : List Action}
    (hedits : ∀ action ∈ edits, action.IsUnsaved) {exit : Action}
    (hexit : exit.control? = some .exit) :
    Run.state act s (edits ++ [exit]) = (s.act exit).state := by
  obtain ⟨buffer, hstate⟩ := state_unsaved hmode hedits
  rw [Run.state_append, hstate, Run.state_cons, Run.state_nil, act_exit rfl hexit,
    act_exit hmode hexit]

theorem SameButUnsaved.state_eq {actions others : List Action}
    (h : SameButUnsaved s actions others) : Run.state act s actions = Run.state act s others := by
  induction h with
  | refl s actions => rfl
  | symm _ ih => exact ih.symm
  | trans _ _ ih ih' => exact ih.trans ih'
  | cons action _ ih => exact ih
  | refused hediting line actions =>
    obtain ⟨editor, hmode⟩ := exists_editor hediting
    rw [Run.state_cons]
    exact congrArg (Run.state act · actions) (submit_of_editing hmode line)
  | @unsaved s hediting edits hedits exit hexit actions =>
    obtain ⟨editor, hmode⟩ := exists_editor hediting
    have hcut : edits ++ exit :: actions = (edits ++ [exit]) ++ actions := by simp
    rw [hcut, Run.state_append, state_unsaved_exit hmode hedits hexit, Run.state_cons]

/-- Leaving the editor after edits that were not saved leads to the same session as leaving it
without them, the one that was open with its editor closed. So runs that differ only in such edits
and in refused command lines end in the same session. -/
theorem exit_discards (settings : Settings) (actions : List Action) {editor : Editor}
    (hmode : (after settings actions).mode = .editing editor) {edits : List Action}
    (hedits : ∀ action ∈ edits, action.IsUnsaved) {exit : Action}
    (hexit : exit.control? = some .exit) :
    let s := after settings actions
    (s.act exit).state = { s with mode := .prompting } ∧
      after settings (actions ++ edits ++ [exit]) = (s.act exit).state ∧
      ∀ run other, SameButUnsaved (start settings).state run other →
        after settings run = after settings other := by
  intro s
  have hafter : after settings (actions ++ edits ++ [exit]) =
      Run.state act s (edits ++ [exit]) := by
    rw [List.append_assoc]
    exact Run.state_append ..
  refine ⟨act_exit hmode hexit, ?_, fun run other hsame => hsame.state_eq⟩
  rw [hafter]
  exact state_unsaved_exit hmode hedits hexit

/-- After a save come a draft, a refused `rm` and two keys that are no control inputs. The same
visit with and without them is part of two runs that go on with another one. -/
theorem exit_discards_draft :
    let actions : List Action :=
      [.submit "cd home", .submit "nano notes", .editorInput "kept", .editorKey true "s"]
    let edits : List Action :=
      [.editorInput "draft", .submit "rm notes", .editorKey false "s", .editorKey true "q"]
    let exit : Action := .editorKey true "X"
    let more : List Action := [.submit "nano todo", .editorInput "tea", .editorCommand .save]
    (after .standard actions).mode =
        .editing ⟨"/home/", "notes", "kept", some "File 'notes' saved"⟩ ∧
      (∀ action ∈ edits, action.IsUnsaved) ∧ exit.control? = some .exit ∧
      after .standard (actions ++ edits ++ [exit]) = ((after .standard actions).act exit).state ∧
      ((after .standard actions).act exit).state.fs.content "/home/" "notes" = .ok "kept" ∧
      SameButUnsaved (start .standard).state (actions ++ (edits ++ exit :: more))
        (actions ++ exit :: more) ∧
      after .standard (actions ++ (edits ++ exit :: more)) =
        after .standard (actions ++ exit :: more) := by
  intro actions edits exit more
  have hmode : (after .standard actions).mode =
      .editing ⟨"/home/", "notes", "kept", some "File 'notes' saved"⟩ := by decide +kernel
  have hedits : ∀ action ∈ edits, action.IsUnsaved := by simp [edits, Action.IsUnsaved]
  have hexit : exit.control? = some .exit := by decide
  have hsame : SameButUnsaved (start .standard).state (actions ++ (edits ++ exit :: more))
      (actions ++ exit :: more) :=
    .cons _ (.cons _ (.cons _ (.cons _
      (.unsaved (isEditing_of_editing hmode) hedits hexit more))))
  obtain ⟨-, hleft, hruns⟩ := exit_discards .standard actions hmode hedits hexit
  exact ⟨hmode, hedits, hexit, hleft, rfl, hsame, hruns _ _ hsame⟩

end MemShell.Session
