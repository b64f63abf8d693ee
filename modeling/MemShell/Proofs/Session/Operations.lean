import MemShell.Proofs.FileSystem.CreationOrder
import MemShell.Proofs.Session.Standing
import MemShell.Proofs.Session.View

/-!
# What a session asks of its file system

The file system of a session changes by its own operations only. `operations` tells which ones an
action comes down to in the session that it meets, so a run of a session has a run of its file
system inside it (`fs_run`), and listings are in the order of creation along that run
(`listedByCreation_after`).

On the way to a file a name has been an argument of a command line. So, unless commands were
executed past the command line, every file has a word for its name (`isWord_of_listed`): `nano`
takes the name from the line, and the editor, which may save much later, keeps it (`NamesWord.act`).
-/

namespace MemShell

/-- Files are opened and written under words only. -/
def FileSystem.Operation.NamesWord : FileSystem.Operation → Prop
  | .openFile _ name | .write _ name _ => Text.IsWord name
  | .makeDirectory .. | .removeDirectory _ | .list _ | .erase .. | .content .. | .contains _ => True

namespace Session

open FileSystem (Operation Step perform)

/-- The command that a line calls, if it calls one. -/
def commandOfLine? (line : String) : Option Command :=
  (Invocation.ofLine? line).bind fun call => (Command.ofInvocation call).toOption

/-- The operations that a command comes down to, those left out that only look. -/
def commandOperations (s : Session) : Command → List Operation
  | .mkdir names => names.map (.makeDirectory s.cwd)
  | .rmdir target =>
    let path := target.resolve s.cwd
    if s.fs.contains path && Path.isWithin s.cwd path then [] else [.removeDirectory path]
  | .rm file => [.erase s.cwd file]
  | .nano file => [.openFile s.cwd file]
  | .ls _ | .cd _ | .cat _ | .pwd | .clear | .help | .ifconfig | .top | .startx => []

/-- The operations that a line comes down to. -/
def lineOperations (s : Session) (line : String) : List Operation :=
  if s.isEditing then [] else ((commandOfLine? line).map s.commandOperations).getD []

/-- A save writes the buffer. -/
def editorOperations (s : Session) (command : EditorCommand) : List Operation :=
  match s.mode with
  | .prompting => []
  | .editing editor =>
    match command with
    | .save => [.write editor.dir editor.file editor.buffer]
    | .exit => []

/-- The operations that an action comes down to. -/
def operations (s : Session) : Action → List Operation
  | .submit line => s.lineOperations line
  | .execute command => s.commandOperations command
  | .editorCommand command => s.editorOperations command
  | .editorKey ctrl key => ((EditorCommand.ofKey? ctrl key).map s.editorOperations).getD []
  | .createFolder name => [.makeDirectory Path.home name]
  | .editorInput _ | .setView _ => []

/-- The operations of a run of actions. -/
def changes (s : Session) (actions : List Action) : List Operation :=
  (Run.steps act s actions).flatMap fun met => met.1.operations met.2

/-- What has happened to the file system of a session since before its startup tree was made. -/
def history (settings : Settings) (actions : List Action) : List Step :=
  FileSystem.founding ++
    Run.steps perform FileSystem.startup.state ((start settings).state.changes actions)

/-- The open editor saves under a word. -/
def NamesWord (s : Session) : Prop := ∀ editor, s.mode = .editing editor → Text.IsWord editor.file

variable {s : Session}

theorem commandOfLine?_eq_some_iff {line : String} {command : Command} :
    commandOfLine? line = some command ↔
      ∃ call, Invocation.ofLine? line = some call ∧ Command.ofInvocation call = .ok command := by
  rw [commandOfLine?, Option.bind_eq_some_iff]
  refine exists_congr fun call => and_congr_right fun _ => ?_
  cases Command.ofInvocation call with
  | ok found => simp [Except.toOption]
  | error e => simp [Except.toOption]

/-! ## The run of the file system -/

theorem fs_execute (s : Session) (command : Command) :
    (s.execute command).state.fs = Run.state perform s.fs (s.commandOperations command) := by
  cases command with
  | mkdir names => exact (FileSystem.state_makeDirectories s.fs s.cwd names).symm
  | rmdir target =>
    rw [execute, attempt, executeRmdir, commandOperations]
    cases hbusy : s.fs.contains (target.resolve s.cwd) &&
        Path.isWithin s.cwd (target.resolve s.cwd) with
    | true => rfl
    | false =>
      rw [if_neg Bool.false_ne_true, if_neg Bool.false_ne_true, Run.state_cons, Run.state_nil,
        perform]
      cases s.fs.removeDirectory (target.resolve s.cwd) with
      | ok removed => rfl
      | error e => rfl
  | rm file =>
    rw [execute, attempt, executeRm, commandOperations, Run.state_cons, Run.state_nil, perform]
    cases s.fs.erase s.cwd file with
    | ok removed => rfl
    | error e => rfl
  | nano file =>
    rw [execute, attempt, executeNano, commandOperations, Run.state_cons, Run.state_nil, perform]
    cases s.fs.openFile s.cwd file with
    | ok opened => rfl
    | error e => rfl
  | cd target =>
    rcases s.execute_effect (.cd target) with hsame | ⟨cwd, hmoved⟩
    · rw [hsame]
      rfl
    · rw [hmoved]
      rfl
  | ls | cat | pwd | clear | help | ifconfig | top | startx =>
    rcases s.execute_effect _ with hsame | hsame
    · exact congrArg fs hsame
    · exact congrArg fs hsame

theorem fs_submit (s : Session) (line : String) :
    (s.submit line).state.fs = Run.state perform s.fs (s.lineOperations line) := by
  rw [submit, lineOperations]
  split
  · rfl
  · rw [commandOfLine?]
    cases Invocation.ofLine? line with
    | none => rfl
    | some call =>
      simp only [run, Option.bind_some]
      cases Command.ofInvocation call with
      | ok command => exact s.fs_execute command
      | error e => rfl

theorem fs_editorCommand (s : Session) (command : EditorCommand) :
    (s.editorCommand command).state.fs =
      Run.state perform s.fs (s.editorOperations command) := by
  cases hmode : s.mode with
  | prompting => simp only [editorCommand, editorOperations, hmode, Run.state_nil]
  | editing editor =>
    cases command with
    | exit => simp only [editorCommand, editorOperations, hmode, Run.state_nil]
    | save =>
      simp only [editorCommand, editorOperations, hmode, save, perform, Run.state_cons,
        Run.state_nil]
      cases s.fs.write editor.dir editor.file editor.buffer with
      | ok written => rfl
      | error e => rfl

/-- Every action comes down to its operations. -/
theorem fs_act (s : Session) (action : Action) :
    (s.act action).state.fs = Run.state perform s.fs (s.operations action) := by
  cases action with
  | submit line => exact s.fs_submit line
  | execute command => exact s.fs_execute command
  | editorCommand command => exact s.fs_editorCommand command
  | editorKey ctrl key =>
    rw [operations]
    cases hkey : EditorCommand.ofKey? ctrl key with
    | some command =>
      have hact : (s.act (.editorKey ctrl key)).state = (s.editorCommand command).state :=
        act_of_control hkey
      rw [hact]
      exact s.fs_editorCommand command
    | none =>
      rw [act_editorKey_of_none hkey]
      rfl
  | createFolder name =>
    rw [act, createFolder, operations, Run.state_cons, Run.state_nil, perform]
    cases s.fs.makeDirectory Path.home name with
    | ok made => rfl
    | error e => rfl
  | editorInput text =>
    rw [act, editorInput]
    cases s.mode with
    | prompting => rfl
    | editing editor => rfl
  | setView view => rfl

theorem fs_run (s : Session) (actions : List Action) :
    (Run.state act s actions).fs = Run.state perform s.fs (s.changes actions) := by
  induction actions generalizing s with
  | nil => rfl
  | cons action actions ih =>
    have hchanges : s.changes (action :: actions) =
        s.operations action ++ (s.act action).state.changes actions := by
      rw [changes, Run.steps, List.flatMap_cons]
      rfl
    rw [Run.state_cons, ih, fs_act, hchanges, Run.state_append]

/-- Every listing is in the order of creation along the history. -/
theorem listedByCreation_after (settings : Settings) (actions : List Action) (path : String) :
    FileSystem.ListedByCreation (history settings actions) path
      ((after settings actions).fs.listing path) := by
  have hfs : (after settings actions).fs = Run.state perform FileSystem.startup.state
      ((start settings).state.changes actions) := by
    rw [after, fs_run, start_fs]
  rw [hfs]
  exact FileSystem.listedByCreation_run FileSystem.TreeShaped.startup
    (FileSystem.listedByCreation_startup path) _

/-! ## Names of files -/

theorem mem_args_of_nano {call : Invocation} {file : String}
    (h : Command.ofInvocation call = .ok (.nano file)) : file ∈ call.args := by
  have hname := name_of_ofInvocation h
  rw [Command.ofInvocation, ← hname] at h
  cases hargs : call.args with
  | nil =>
    rw [hargs] at h
    cases h
  | cons arg args =>
    rw [hargs] at h
    cases h
    exact List.mem_cons_self

theorem isWord_of_commandOfLine? {line file : String}
    (h : commandOfLine? line = some (.nano file)) : Text.IsWord file := by
  obtain ⟨call, hcall, hcommand⟩ := commandOfLine?_eq_some_iff.1 h
  have hmem : file ∈ Text.words line := by
    rw [← Invocation.wordsOf_ofLine?, hcall]
    exact List.mem_cons_of_mem call.name (mem_args_of_nano hcommand)
  exact Text.isWord_of_mem_words hmem

theorem namesWord_commandOperations {command : Command}
    (hcommand : ∀ file, command = .nano file → Text.IsWord file) :
    ∀ op ∈ s.commandOperations command, op.NamesWord := by
  intro op hop
  cases command with
  | mkdir names =>
    obtain ⟨name, -, rfl⟩ := List.mem_map.1 hop
    trivial
  | rmdir target =>
    rw [commandOperations] at hop
    split at hop
    · cases hop
    · rw [List.mem_singleton.1 hop]
      trivial
  | rm file =>
    rw [List.mem_singleton.1 hop]
    trivial
  | nano file =>
    rw [List.mem_singleton.1 hop]
    exact hcommand file rfl
  | ls | cd | cat | pwd | clear | help | ifconfig | top | startx => cases hop

namespace NamesWord

theorem congr (h : NamesWord s) {next : Session} (hmode : next.mode = s.mode) : NamesWord next :=
  fun editor hediting => h editor (hmode ▸ hediting)

theorem start (settings : Settings) : NamesWord (Session.start settings).state := by
  intro editor hmode
  cases hmode

theorem execute (h : NamesWord s) {command : Command}
    (hcommand : ∀ file, command = .nano file → Text.IsWord file) :
    NamesWord (s.execute command).state := by
  cases command with
  | nano file =>
    rcases s.execute_effect (.nano file) with hsame | ⟨opened, -, hnext⟩
    · rw [hsame]
      exact h
    · intro editor hmode
      rw [hnext] at hmode
      cases hmode
      exact hcommand file rfl
  | ls | cd | mkdir | rmdir | rm | cat | pwd | clear | help | ifconfig | top | startx =>
    exact h.congr (execute_mode (by simp))

theorem submit (h : NamesWord s) (line : String) : NamesWord (s.submit line).state := by
  rw [Session.submit]
  split
  · exact h
  · cases hcall : Invocation.ofLine? line with
    | none => exact h
    | some call =>
      have hrun : NamesWord (s.run call).state := by
        rw [Session.run]
        cases hcommand : Command.ofInvocation call with
        | error e => exact h
        | ok command =>
          refine h.execute fun file hnano => ?_
          subst hnano
          exact isWord_of_commandOfLine? (commandOfLine?_eq_some_iff.2 ⟨call, hcall, hcommand⟩)
      exact hrun.congr rfl

theorem editorCommand (h : NamesWord s) (command : EditorCommand) :
    NamesWord (s.editorCommand command).state := by
  cases hmode : s.mode with
  | prompting =>
    simp only [Session.editorCommand, hmode]
    exact h
  | editing editor =>
    have hword := h editor hmode
    cases command with
    | exit =>
      intro other hother
      simp only [Session.editorCommand, hmode] at hother
      cases hother
    | save =>
      intro other hother
      simp only [Session.editorCommand, hmode, save] at hother
      split at hother
      · cases hother
        exact hword
      · cases hother
        exact hword

theorem act (h : NamesWord s) {action : Action} (hline : ∀ command, action ≠ .execute command) :
    NamesWord (s.act action).state := by
  cases action with
  | execute command => exact absurd rfl (hline command)
  | submit line => exact h.submit line
  | editorCommand command => exact h.editorCommand command
  | editorKey ctrl key =>
    cases hkey : EditorCommand.ofKey? ctrl key with
    | some command =>
      have hact : (s.act (.editorKey ctrl key)).state = (s.editorCommand command).state :=
        act_of_control hkey
      rw [hact]
      exact h.editorCommand command
    | none =>
      rw [act_editorKey_of_none hkey]
      exact h
  | editorInput text =>
    rw [Session.act, editorInput]
    cases hmode : s.mode with
    | prompting => exact h
    | editing editor =>
      intro other hother
      cases hother
      exact h editor hmode
  | setView view => exact h
  | createFolder name =>
    obtain ⟨fs, hmade⟩ := s.act_createFolder name
    rw [hmade]
    exact h.congr rfl

theorem operations (h : NamesWord s) {action : Action}
    (hline : ∀ command, action ≠ .execute command) :
    ∀ op ∈ s.operations action, op.NamesWord := by
  have heditor : ∀ command, ∀ op ∈ s.editorOperations command, op.NamesWord := by
    intro command op hop
    rw [editorOperations] at hop
    split at hop
    · cases hop
    · next editor hmode =>
      cases command with
      | save =>
        rw [List.mem_singleton.1 hop]
        exact h editor hmode
      | exit => cases hop
  intro op hop
  cases action with
  | execute command => exact absurd rfl (hline command)
  | submit line =>
    rw [Session.operations, lineOperations] at hop
    split at hop
    · cases hop
    · cases hcommand : commandOfLine? line with
      | none =>
        rw [hcommand] at hop
        cases hop
      | some command =>
        rw [hcommand] at hop
        refine namesWord_commandOperations (fun file hnano => ?_) op hop
        exact isWord_of_commandOfLine? (hnano ▸ hcommand)
  | editorCommand command => exact heditor command op hop
  | editorKey ctrl key =>
    rw [Session.operations] at hop
    cases hkey : EditorCommand.ofKey? ctrl key with
    | none =>
      rw [hkey] at hop
      cases hop
    | some command =>
      rw [hkey] at hop
      exact heditor command op hop
  | createFolder name =>
    rw [List.mem_singleton.1 hop]
    trivial
  | editorInput | setView => cases hop

/-- No operation of a run, from its first action on, names a file by anything but a word. -/
theorem changes (h : NamesWord s) {actions : List Action}
    (hlines : ∀ command, .execute command ∉ actions) : ∀ op ∈ s.changes actions, op.NamesWord := by
  intro op hop
  obtain ⟨met, hmet, hop⟩ := List.mem_flatMap.1 hop
  have hallowed : ∀ action ∈ actions, ∀ command, action ≠ .execute command := by
    rintro action haction command rfl
    exact hlines command haction
  have hnames : NamesWord met.1 :=
    Run.forall_mem_steps (fun _ _ hline h => h.act hline) h hallowed met hmet
  exact hnames.operations (hallowed met.2 (Run.mem_of_mem_steps hmet)) op hop

end NamesWord

theorem namesWord_history (settings : Settings) {actions : List Action}
    (hlines : ∀ command, .execute command ∉ actions) :
    ∀ step ∈ history settings actions, step.2.NamesWord := by
  intro step hstep
  rcases List.mem_append.1 hstep with hstep | hstep
  · obtain ⟨name, -, hop⟩ := List.mem_map.1 (Run.mem_of_mem_steps hstep)
    rw [← hop]
    trivial
  · exact (NamesWord.start settings).changes hlines _ (Run.mem_of_mem_steps hstep)

/-- What a file is called has been typed as a word. -/
theorem isWord_of_listed (settings : Settings) {actions : List Action}
    (hlines : ∀ command, .execute command ∉ actions) {path name : String}
    (hname : name ∈ ((after settings actions).fs.listing path).files) : Text.IsWord name := by
  have hlisted := ((listedByCreation_after settings actions path).files _).2 rfl
  obtain ⟨time, ⟨⟨step, hstep, hmade, -⟩, -⟩, -⟩ := (hlisted.mem_iff name).1 hname
  have hnames := namesWord_history settings hlines step (List.mem_of_getElem? hstep)
  rcases hmade with hop | ⟨content, hop⟩
  · rw [hop] at hnames
    exact hnames
  · rw [hop] at hnames
    exact hnames

end Session

end MemShell
