import MemShell.Proofs.Session.Action

/-!
# What a command does to a session

Each command changes few parts of the session that it runs in. `Effect` names them command by
command, and `execute_effect` says that a command that fails changes nothing and one that succeeds
has its effect. No command touches the log (`execute_log`), and at the prompt only `nano` opens an
editor (`execute_opens`).
-/

namespace MemShell.Session

/-- The session that a command that succeeds leaves: `cd` moves, `mkdir`, `rmdir` and `rm` change
the file system, `nano` opens a file and the editor on it, and all others only look. -/
def Effect (s : Session) : Command → Session → Prop
  | .cd _, next => ∃ cwd, next = { s with cwd }
  | .mkdir _, next | .rmdir _, next | .rm _, next => ∃ fs, next = { s with fs }
  | .nano file, next =>
    ∃ opened, s.fs.openFile s.cwd file = .ok opened ∧
      next =
        { s with
          fs := opened.state
          mode := .editing (.open s.cwd file opened.value.content) }
  | .ls _, next | .cat _, next | .pwd, next | .clear, next | .help, next | .ifconfig, next
  | .top, next | .startx, next => next = s

variable {s : Session} {done : Outcome Session Reply}

/-! ## Commands that succeed -/

theorem executeLs_ok {target : Option PathArg} (h : s.executeLs target = .ok done) :
    ∃ listing, s.fs.list ((target.map (·.resolve s.cwd)).getD s.cwd) = .ok listing ∧
      done = s.answer
        (if listing.isEmpty then [] else [.text ("  ".intercalate listing.names)]) := by
  unfold executeLs at h
  split at h
  · cases h
  · next listing hlisting =>
    refine ⟨listing, hlisting, ?_⟩
    split at h
    · next hempty =>
      rw [if_pos hempty]
      exact (Except.ok.inj h).symm
    · next hempty =>
      rw [if_neg hempty]
      exact (Except.ok.inj h).symm

theorem executeCd_ok {target : PathArg} (h : s.executeCd target = .ok done) :
    s.fs.contains (target.resolve s.cwd) = true ∧
      done = ⟨.empty, { s with cwd := target.resolve s.cwd },
        [.changedDirectory s.cwd (target.resolve s.cwd)]⟩ := by
  unfold executeCd at h
  dsimp only at h
  split at h
  · next hthere => exact ⟨hthere, (Except.ok.inj h).symm⟩
  · cases h

theorem executeRmdir_ok {target : PathArg} (h : s.executeRmdir target = .ok done) :
    (s.fs.contains (target.resolve s.cwd) && Path.isWithin s.cwd (target.resolve s.cwd)) = false ∧
      ∃ removed, s.fs.removeDirectory (target.resolve s.cwd) = .ok removed ∧
        done = ⟨.ofLines [.success ("Directory '" ++ target.typed ++ "' removed")],
          { s with fs := removed.state }, removed.events⟩ := by
  unfold executeRmdir at h
  dsimp only at h
  split at h
  · cases h
  · next hfree =>
    refine ⟨Bool.of_not_eq_true hfree, ?_⟩
    split at h
    · cases h
    · next removed hremoved => exact ⟨removed, hremoved, (Except.ok.inj h).symm⟩

theorem executeRm_ok {file : String} (h : s.executeRm file = .ok done) :
    ∃ removed, s.fs.erase s.cwd file = .ok removed ∧
      done = ⟨.ofLines [.success ("File '" ++ file ++ "' removed")],
        { s with fs := removed.state }, removed.events⟩ := by
  unfold executeRm at h
  split at h
  · cases h
  · next removed hremoved => exact ⟨removed, hremoved, (Except.ok.inj h).symm⟩

theorem executeCat_ok {file : String} (h : s.executeCat file = .ok done) :
    ∃ content, s.fs.content s.cwd file = .ok content ∧
      done = s.answer (if content = "" then [] else [.text content]) := by
  unfold executeCat at h
  split at h
  · cases h
  · next content hcontent => exact ⟨content, hcontent, (Except.ok.inj h).symm⟩

theorem executeNano_ok {file : String} (h : s.executeNano file = .ok done) :
    ∃ opened, s.fs.openFile s.cwd file = .ok opened ∧
      done = ⟨.empty,
        { s with
          fs := opened.state
          mode := .editing (.open s.cwd file opened.value.content) },
        opened.events ++ [.editorOpened s.cwd file]⟩ := by
  unfold executeNano at h
  split at h
  · cases h
  · next opened hopened => exact ⟨opened, hopened, (Except.ok.inj h).symm⟩

theorem attempt_effect {command : Command} (h : s.attempt command = .ok done) :
    Effect s command done.state := by
  unfold attempt at h
  cases command with
  | ls target =>
    obtain ⟨listing, -, rfl⟩ := executeLs_ok h
    rfl
  | cd target =>
    obtain ⟨-, rfl⟩ := executeCd_ok h
    exact ⟨_, rfl⟩
  | mkdir names =>
    cases h
    exact ⟨_, rfl⟩
  | rmdir target =>
    obtain ⟨-, removed, -, rfl⟩ := executeRmdir_ok h
    exact ⟨_, rfl⟩
  | rm file =>
    obtain ⟨removed, -, rfl⟩ := executeRm_ok h
    exact ⟨_, rfl⟩
  | cat file =>
    obtain ⟨content, -, rfl⟩ := executeCat_ok h
    rfl
  | nano file =>
    obtain ⟨opened, hopened, rfl⟩ := executeNano_ok h
    exact ⟨opened, hopened, rfl⟩
  | pwd | clear | help | ifconfig | top | startx =>
    cases h
    rfl

/-- Only `clear` asks for an empty log, and only `startx` for a view. -/
theorem attempt_asks {command : Command} (h : s.attempt command = .ok done) :
    (done.value.clear = true ↔ command = .clear) ∧
      done.value.view = if command = .startx then some .desktop else none := by
  unfold attempt at h
  cases command with
  | ls target =>
    obtain ⟨listing, -, rfl⟩ := executeLs_ok h
    simp [answer, Reply.ofLines]
  | cd target =>
    obtain ⟨-, rfl⟩ := executeCd_ok h
    simp [Reply.empty]
  | rmdir target =>
    obtain ⟨-, removed, -, rfl⟩ := executeRmdir_ok h
    simp [Reply.ofLines]
  | rm file =>
    obtain ⟨removed, -, rfl⟩ := executeRm_ok h
    simp [Reply.ofLines]
  | cat file =>
    obtain ⟨content, -, rfl⟩ := executeCat_ok h
    simp [answer, Reply.ofLines]
  | nano file =>
    obtain ⟨opened, -, rfl⟩ := executeNano_ok h
    simp [Reply.empty]
  | mkdir | pwd | clear | help | ifconfig | top | startx =>
    cases h
    simp [executeMkdir, answer, Reply.ofLines, Reply.empty]

/-- The lines of a command that succeeds carry texts of their own, those of `mkdir` apart, which may
be errors. -/
theorem line_of_attempt {command : Command} (h : s.attempt command = .ok done) {line : Line}
    (hline : line ∈ done.value.output) :
    (∃ names name made, command = .mkdir names ∧ line = mkdirLine name made) ∨
      ∃ text, line = .text text ∨ line = .success text ∨ line = .info text := by
  unfold attempt at h
  cases command with
  | ls target =>
    obtain ⟨listing, -, rfl⟩ := executeLs_ok h
    simp only [answer, Reply.ofLines] at hline
    split at hline
    · cases hline
    · exact .inr ⟨_, .inl (List.mem_singleton.1 hline)⟩
  | cat file =>
    obtain ⟨content, -, rfl⟩ := executeCat_ok h
    simp only [answer, Reply.ofLines] at hline
    split at hline
    · cases hline
    · exact .inr ⟨_, .inl (List.mem_singleton.1 hline)⟩
  | mkdir names =>
    cases h
    obtain ⟨i, hi, rfl⟩ := List.getElem_of_mem hline
    simp only [executeMkdir, Reply.ofLines, List.getElem_zipWith]
    exact .inl ⟨names, _, _, rfl, rfl⟩
  | cd target =>
    obtain ⟨-, rfl⟩ := executeCd_ok h
    cases hline
  | nano file =>
    obtain ⟨opened, -, rfl⟩ := executeNano_ok h
    cases hline
  | rmdir target =>
    obtain ⟨-, removed, -, rfl⟩ := executeRmdir_ok h
    exact .inr ⟨_, .inr (.inl (List.mem_singleton.1 hline))⟩
  | rm file =>
    obtain ⟨removed, -, rfl⟩ := executeRm_ok h
    exact .inr ⟨_, .inr (.inl (List.mem_singleton.1 hline))⟩
  | pwd =>
    cases h
    exact .inr ⟨_, .inl (List.mem_singleton.1 hline)⟩
  | startx =>
    cases h
    exact .inr ⟨_, .inr (.inr (List.mem_singleton.1 hline))⟩
  | clear =>
    cases h
    cases hline
  | help | ifconfig | top =>
    cases h
    obtain ⟨text, -, rfl⟩ := List.mem_map.1 hline
    exact .inr ⟨text, .inl rfl⟩

/-! ## Commands in general -/

theorem execute_effect (s : Session) (command : Command) :
    (s.execute command).state = s ∨ Effect s command (s.execute command).state := by
  rcases s.execute_state command with hsame | ⟨done, hdone, hstate⟩
  · exact .inl hsame
  · rw [hstate]
    exact .inr (attempt_effect hdone)

theorem execute_clear (s : Session) (command : Command) :
    (s.execute command).value.clear = true ↔ command = .clear := by
  rw [execute]
  split
  · next done hdone => exact (attempt_asks hdone).1
  · next e he =>
    refine iff_of_false (by simp [answer, Reply.ofLines]) ?_
    rintro rfl
    cases he

theorem execute_view (s : Session) (command : Command) :
    (s.execute command).value.view = if command = .startx then some .desktop else none := by
  rw [execute]
  split
  · next done hdone => exact (attempt_asks hdone).2
  · next e he =>
    rw [if_neg]
    · rfl
    · rintro rfl
      cases he

/-- What a command has to log stands in its reply. -/
theorem execute_log (s : Session) (command : Command) : (s.execute command).state.log = s.log := by
  rcases s.execute_effect command with hsame | heffect
  · rw [hsame]
  · cases command with
    | ls | cat | pwd | clear | help | ifconfig | top | startx => exact congrArg log heffect
    | cd | mkdir | rmdir | rm =>
      obtain ⟨_, heffect⟩ := heffect
      rw [heffect]
    | nano file =>
      obtain ⟨opened, -, heffect⟩ := heffect
      rw [heffect]

/-- A command that leaves the prompt has opened a file of the current directory. -/
theorem execute_opens {command : Command} {editor : Editor} (hmode : s.mode = .prompting)
    (hopens : (s.execute command).state.mode = .editing editor) :
    ∃ file opened, s.fs.openFile s.cwd file = .ok opened ∧
      editor = .open s.cwd file opened.value.content ∧
      (s.execute command).state = { s with fs := opened.state, mode := .editing editor } := by
  rcases s.execute_effect command with hsame | heffect
  · rw [hsame, hmode] at hopens
    cases hopens
  · cases command with
    | ls | cat | pwd | clear | help | ifconfig | top | startx =>
      have hsame : (s.execute _).state = s := heffect
      rw [hsame, hmode] at hopens
      cases hopens
    | cd | mkdir | rmdir | rm =>
      obtain ⟨_, heffect⟩ := heffect
      rw [heffect] at hopens
      exact absurd (hmode.symm.trans hopens) (by simp)
    | nano file =>
      obtain ⟨opened, hopened, heffect⟩ := heffect
      rw [heffect] at hopens ⊢
      cases hopens
      exact ⟨file, opened, hopened, rfl, rfl⟩

end MemShell.Session
