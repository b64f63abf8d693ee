import Mathlib.Data.List.DropRight
import MemShell.Proofs.Session.Effect
import MemShell.Proofs.Text.Words

/-!
# The log as a record of the run

The log of a session can be read off its run. Each action adds its `contribution` at the end, which
is told from the session that the action met, except that `clear` at the prompt empties the log and
leaves not even its own echo (`act_log`). So the log is what `replay` puts together from the steps
of the run, the banner first if nothing was cleared (`log_after`).
-/

namespace MemShell.Session

/-- The answer of the editor to a save. -/
def saveLine (s : Session) (editor : Editor) : Line :=
  match s.fs.write editor.dir editor.file editor.buffer with
  | .ok _ => .success ("File '" ++ editor.file ++ "' saved")
  | .error e => .error ("nano: " ++ e.message)

/-- The action is a command line at the prompt that calls `clear`. -/
def clears (s : Session) : Action → Bool
  | .submit line => !s.isEditing && (Text.words line).head? == some "clear"
  | _ => false

/-- The lines that an action adds to the log. -/
def contribution (s : Session) (action : Action) : List Line :=
  match s.mode with
  | .prompting =>
    match action with
    | .submit line =>
      if line.toList.all Text.isBlank then []
      else .command s.promptText (Text.trim line) :: (s.submit line).value.output
    | _ => []
  | .editing editor => if action.control? = some .save then [s.saveLine editor] else []

/-- The log that begins with the opening and is kept up to date at each step: the contributions,
in order, of the steps after the last one that clears it. -/
def replay (opening : List Line) (steps : List (Session × Action)) : List Line :=
  (if steps.any fun step => step.1.clears step.2 then [] else opening) ++
    (steps.rtakeWhile fun step => !step.1.clears step.2).flatMap
      fun step => step.1.contribution step.2

variable {s : Session}

/-! ## Single steps -/

theorem name_of_ofFirst {usage : String} {make : String → Command} {args : List String}
    {command : Command} (h : Command.ofFirst usage make args = .ok command) :
    ∃ arg, command = make arg := by
  cases args with
  | nil => cases h
  | cons arg args => exact ⟨arg, (Except.ok.inj h).symm⟩

/-- A line calls a command by the name of the command. -/
theorem name_of_ofInvocation {call : Invocation} {command : Command}
    (h : Command.ofInvocation call = .ok command) : command.name = call.name := by
  unfold Command.ofInvocation at h
  split at h
  case h_2 hname | h_3 hname | h_4 hname | h_5 hname | h_6 hname | h_8 hname =>
    obtain ⟨arg, rfl⟩ := name_of_ofFirst h
    exact hname.symm
  case h_14 => cases h
  all_goals
    next hname =>
    cases h
    exact hname.symm

theorem run_clear (s : Session) (call : Invocation) :
    (s.run call).value.clear = true ↔ call.name = "clear" := by
  rw [run]
  split
  · next command hcommand =>
    rw [execute_clear, ← name_of_ofInvocation hcommand]
    cases command <;> simp [Command.name]
  · next e he =>
    refine iff_of_false (by simp [answer, Reply.ofLines]) fun hname => ?_
    simp [Command.ofInvocation, hname] at he

/-- `clear` itself has nothing to say. -/
theorem output_run_clear {call : Invocation} (h : call.name = "clear") :
    (s.run call).value.output = [] := by
  have hcommand : Command.ofInvocation call = .ok .clear := by
    simp [Command.ofInvocation, h]
  rw [run, hcommand]
  rfl

theorem run_log (s : Session) (call : Invocation) : (s.run call).state.log = s.log := by
  rcases s.run_state call with hsame | ⟨command, hcommand⟩
  · rw [hsame]
  · rw [hcommand]
    exact s.execute_log command

theorem submit_log (hmode : s.mode = .prompting) (line : String) :
    (s.submit line).state.log =
      if s.clears (.submit line) then [] else s.log ++ s.contribution (.submit line) := by
  have hprompt := isEditing_of_prompting hmode
  have hcontribution : s.contribution (.submit line) =
      if line.toList.all Text.isBlank then []
      else .command s.promptText (Text.trim line) :: (s.submit line).value.output := by
    simp only [contribution, hmode]
  rw [hcontribution]
  cases hwords : Text.words line with
  | nil =>
    have hblanks := Text.words_eq_nil_iff.1 hwords
    have hblank : line.toList.all Text.isBlank = true := List.all_eq_true.2 hblanks
    have hnone := Invocation.ofLine?_eq_none_iff.2 hblanks
    rw [submit, hprompt, if_neg Bool.false_ne_true, hnone]
    simp [clears, hwords, hblank]
  | cons name args =>
    have hblank : ¬ line.toList.all Text.isBlank = true := by
      rw [List.all_eq_true, ← Text.words_eq_nil_iff, hwords]
      exact List.cons_ne_nil name args
    have hcall := Invocation.ofLine?_of_words hwords
    have hclears : s.clears (.submit line) = (name == "clear") := by
      simp [clears, hprompt, hwords]
    rw [if_neg hblank, hclears, submit, hprompt, if_neg Bool.false_ne_true, hcall]
    dsimp only
    rw [logged, run_log]
    by_cases hname : name = "clear"
    · rw [if_pos ((s.run_clear _).2 hname), output_run_clear hname, if_pos (beq_iff_eq.2 hname)]
      rfl
    · rw [if_neg (mt (s.run_clear _).1 hname), if_neg (mt beq_iff_eq.1 hname)]
      simp

theorem save_value (s : Session) (editor : Editor) :
    (s.save editor).value = [s.saveLine editor] := by
  rw [save, saveLine]
  cases s.fs.write editor.dir editor.file editor.buffer with
  | ok written => rfl
  | error e => rfl

theorem save_log (s : Session) (editor : Editor) :
    (s.save editor).state.log = s.log ++ [s.saveLine editor] := by
  rw [save, saveLine]
  cases s.fs.write editor.dir editor.file editor.buffer with
  | ok written => rfl
  | error e => rfl

/-- An action that is neither a command line nor a control input has nothing to log. -/
theorem act_log_of_quiet {action : Action} (hcontrol : action.control? = none)
    (hline : ∀ line, action ≠ .submit line) : (s.act action).state.log = s.log := by
  cases action with
  | submit line => exact absurd rfl (hline line)
  | execute command => exact s.execute_log command
  | editorInput text =>
    rw [act, editorInput]
    split
    · rfl
    · rfl
  | editorCommand command => cases hcontrol
  | editorKey ctrl key =>
    have hkey : EditorCommand.ofKey? ctrl key = none := hcontrol
    rw [act_editorKey_of_none hkey]
  | setView view => rfl
  | createFolder name =>
    obtain ⟨fs, hmade⟩ := s.act_createFolder name
    rw [hmade]

theorem act_log (s : Session) (action : Action) :
    (s.act action).state.log =
      if s.clears action then [] else s.log ++ s.contribution action := by
  cases hmode : s.mode with
  | prompting =>
    cases action with
    | submit line => exact submit_log hmode line
    | execute | editorInput | setView | createFolder =>
      rw [act_log_of_quiet rfl (by simp)]
      simp [clears, contribution, hmode]
    | editorCommand command =>
      simp [act, editorCommand, clears, contribution, hmode]
    | editorKey ctrl key =>
      simp [act, editorKey, isEditing_of_prompting hmode, clears, contribution, hmode]
  | editing editor =>
    have hediting := isEditing_of_editing hmode
    have hclears : s.clears action = false := by
      cases action with
      | submit line => simp [clears, hediting]
      | _ => rfl
    rw [hclears, if_neg Bool.false_ne_true]
    cases hcontrol : action.control? with
    | some command =>
      rw [act_of_control hcontrol, editorCommand, hmode]
      cases command with
      | save => simp [contribution, hmode, hcontrol, save_log]
      | exit => simp [contribution, hmode, hcontrol]
    | none =>
      have hquiet : (s.act action).state.log = s.log := by
        by_cases hline : ∀ line, action ≠ .submit line
        · exact act_log_of_quiet hcontrol hline
        · simp only [ne_eq, not_forall, not_not] at hline
          obtain ⟨line, rfl⟩ := hline
          rw [act, submit_of_editing hmode]
      simp [hquiet, contribution, hmode, hcontrol]

/-! ## Whole runs -/

theorem replay_append_singleton (opening : List Line) (steps : List (Session × Action))
    (s : Session) (action : Action) :
    replay opening (steps ++ [(s, action)]) =
      if s.clears action then [] else replay opening steps ++ s.contribution action := by
  rw [replay, replay, List.any_append, List.any_cons, List.any_nil, Bool.or_false,
    List.rtakeWhile_concat]
  cases hclears : s.clears action with
  | true => simp
  | false =>
    rw [Bool.or_false]
    simp

theorem log_run (s : Session) (actions : List Action) :
    (Run.state act s actions).log = replay s.log (Run.steps act s actions) := by
  -- The last step decides whether anything before it is kept.
  induction actions using List.reverseRecOn with
  | nil => simp [replay, Run.steps]
  | append_singleton actions action ih =>
    rw [Run.state_append, Run.steps_append]
    simp only [Run.state_cons, Run.state_nil, Run.steps]
    rw [replay_append_singleton, act_log, ih]

/-- After a run the log is what the run replays behind the banner. A save then contributes the one
line that the editor answers with, and no action but `clear` at the prompt takes a line away. -/
theorem log_after (settings : Settings) (actions : List Action) :
    let s := after settings actions
    s.log = replay (Manual.banner.map .info) (Run.steps act (start settings).state actions) ∧
      (∀ editor, s.mode = .editing editor → (s.editorCommand .save).value = [s.saveLine editor]) ∧
      ∀ action, s.clears action = false → s.log <+: (s.act action).state.log := by
  intro s
  refine ⟨log_run (start settings).state actions, fun editor hmode => ?_, fun action hclears => ?_⟩
  · rw [editorCommand, hmode]
    exact s.save_value editor
  · rw [act_log, hclears, if_neg Bool.false_ne_true]
    exact List.prefix_append _ _

/-- A `clear` with an argument, a blank line, an error and an edit, and then a command line that is
refused. -/
theorem log_after_clear :
    let actions : List Action :=
      [.submit "ls", .submit "clear now", .submit " ", .submit " cd home", .submit "cd attic",
        .submit "nano notes", .editorInput "kept", .editorKey true "s"]
    let s := after .standard actions
    s.mode = .editing ⟨"/home/", "notes", "kept", some "File 'notes' saved"⟩ ∧
      s.clears (.submit "clear") = false ∧
      s.log =
        [.command "user@local.lg:/" "cd home", .command "user@local.lg:/home" "cd attic",
          .error "cd: attic: No such file or directory",
          .command "user@local.lg:/home" "nano notes", .success "File 'notes' saved"] ∧
      (s.editorCommand .save).value = [.success "File 'notes' saved"] ∧
      s.log <+: (s.act (.submit "clear")).state.log := by
  intro actions s
  have hmode : s.mode = .editing ⟨"/home/", "notes", "kept", some "File 'notes' saved"⟩ := rfl
  have hclears : s.clears (.submit "clear") = false := rfl
  obtain ⟨hlog, hsave, hprefix⟩ := log_after .standard actions
  exact ⟨hmode, hclears, hlog.trans rfl, (hsave _ hmode).trans rfl, hprefix _ hclears⟩

end MemShell.Session
