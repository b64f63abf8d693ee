import Mathlib.Data.List.DropRight
import MemShell.Proofs.Session.Visit
import MemShell.Proofs.Text.Lines
import MemShell.Proofs.Transcript.Reading

/-!
# Typing into the editor line by line

The line-oriented front end builds the buffer of the editor from the lines that it reads, and knows
only from the buffer and from one flag whether a line is the first. `Typing` says what the front end
holds after some lines: the buffer is the old content, if there was any, and the typed lines, each
on a line of its own, and the file has what the buffer was at the last save. Opening the editor
begins with no lines (`Typing.opened`) and each line adds itself (`Typing.text`, `Typing.save`), so
this is so after all lines, and leaving the editor keeps the file (`content_read`).
-/

namespace MemShell.Transcript

/-- The line is the editor's control input for a save. -/
def saves (line : String) : Bool := ["^S", "^s", "\x13"].contains (Text.trim line)

/-- The line is the editor's control input for leaving. -/
def exits (line : String) : Bool := ["^X", "^x", "\x18"].contains (Text.trim line)

/-- The line is text. -/
def types (line : String) : Bool := !saves line && !exits line

/-- The old content, unless it is empty, and the lines of text, each on a line of its own. -/
def edited (content : String) (lines : List String) : String :=
  "\n".intercalate ((if content = "" then [] else [content]) ++ lines.filter types)

/-- What was edited up to the last line that saves, and the old content if no line does. -/
def saved (content : String) (lines : List String) : String :=
  if lines.any saves then edited content (lines.rdropWhile fun line => !saves line) else content

/-- The line can be typed into the editor and stays in it: it saves, or it is text and loses no
carriage return when it is read. -/
def IsEdit (line : String) : Prop :=
  '\n' ∉ line.toList ∧
    (saves line = true ∨ types line = true ∧ line.toList.getLast? ≠ some '\r')

instance (line : String) : Decidable (IsEdit line) := inferInstanceAs (Decidable (_ ∧ _))

/-- The session after the front end has read the lines from a byte stream. -/
def read (s : Session) (lines : List String) : Session :=
  (run s (Text.linesOfBytes (Text.bytesOfLines lines))).state

/-! ## Lines of the editor -/

section Lines

variable {line : String}

theorem ofLine?_of_saves (h : saves line = true) : EditorCommand.ofLine? line = some .save := by
  simp only [saves, List.contains_eq_mem, List.mem_cons, List.not_mem_nil, or_false,
    decide_eq_true_eq] at h
  rcases h with h | h | h <;> simp [EditorCommand.ofLine?, h]

theorem ofLine?_of_exits (h : exits line = true) : EditorCommand.ofLine? line = some .exit := by
  simp only [exits, List.contains_eq_mem, List.mem_cons, List.not_mem_nil, or_false,
    decide_eq_true_eq] at h
  rcases h with h | h | h <;> simp [EditorCommand.ofLine?, h]

theorem ofLine?_of_types (h : types line = true) : EditorCommand.ofLine? line = none := by
  rw [EditorCommand.ofLine?]
  split
  case h_7 => rfl
  all_goals
    next htrim =>
    simp [types, saves, exits, htrim] at h

theorem ofLine?_withoutReturn (line : String) :
    EditorCommand.ofLine? (Text.withoutReturn line) = EditorCommand.ofLine? line := by
  rw [EditorCommand.ofLine?, Text.trim_withoutReturn, EditorCommand.ofLine?]

theorem edited_append_of_types {content : String} {lines : List String} (h : types line = true) :
    edited content (lines ++ [line]) =
      appendLine (edited content lines) line (lines.any types) := by
  have hfilter : (lines ++ [line]).filter types = lines.filter types ++ [line] := by
    simp [h]
  rw [edited, hfilter, ← List.append_assoc]
  by_cases hfirst : content = "" ∧ lines.filter types = []
  · -- The first line of text in an empty file.
    have htyped : lines.any types = false := by
      simpa using hfirst.2
    simp [edited, appendLine, hfirst.1, hfirst.2, htyped]
  · have hparts : (if content = "" then [] else [content]) ++ lines.filter types ≠ [] := by
      simpa using hfirst
    have happend : (lines.any types || decide (edited content lines ≠ "")) = true := by
      by_cases htyped : lines.filter types = []
      · have hcontent : content ≠ "" := fun hempty => hfirst ⟨hempty, htyped⟩
        simp [edited, htyped, hcontent]
      · have hany : lines.any types = true := by
          simpa using htyped
        rw [hany, Bool.true_or]
    rw [String.intercalate_append_of_ne_nil hparts (List.cons_ne_nil line []),
      String.intercalate_singleton, appendLine, if_pos happend, edited]

theorem edited_append_of_saves {content : String} {lines : List String} (h : saves line = true) :
    edited content (lines ++ [line]) = edited content lines := by
  simp [edited, types, h]

theorem saved_append_of_saves {content : String} {lines : List String} (h : saves line = true) :
    saved content (lines ++ [line]) = edited content lines := by
  rw [saved, List.rdropWhile_concat_neg _ _ _ (by simp [h]), edited_append_of_saves h]
  simp [h]

theorem saved_append_of_types {content : String} {lines : List String} (h : types line = true) :
    saved content (lines ++ [line]) = saved content lines := by
  have hsaves : saves line = false := by
    simp only [types, Bool.and_eq_true, Bool.not_eq_true'] at h
    exact h.1
  rw [saved, saved, List.rdropWhile_concat_pos _ _ _ (by simp [hsaves]), List.any_append]
  simp [hsaves]

end Lines

/-! ## The open editor -/

/-- The front end edits `file` in the current directory `dir`, which had the given content when it
was opened, and has read the lines since. -/
structure Typing (st : State) (dir file content : String) (lines : List String) : Prop where
  cwd : st.session.cwd = dir
  mode : ∃ status, st.session.mode = .editing ⟨dir, file, edited content lines, status⟩
  typed : st.typed = lines.any types
  content : st.session.fs.content dir file = .ok (saved content lines)

namespace Typing

variable {st : State} {dir file content line : String} {lines : List String}

theorem opened (hstanding : Session.Standing st.session) (hmode : st.session.mode = .prompting)
    (hfile : Text.IsWord file) :
    Typing (takeLine st ("nano " ++ file)).state st.session.cwd file
      ((st.session.fs.content st.session.cwd file).toOption.getD "") [] := by
  obtain ⟨dir, hdir⟩ := FileSystem.contains_eq_true_iff.1 hstanding.cwd
  obtain ⟨opened, hopened⟩ := FileSystem.openFile_of_some hdir file
  obtain ⟨hvalue, log, hstate⟩ := Session.submit_nano hmode hfile hopened
  have hcontent : (st.session.fs.content st.session.cwd file).toOption.getD "" =
      opened.value.content := FileSystem.content_of_openFile hopened
  have hline : (takeLine st ("nano " ++ file)).state =
      ⟨(st.session.submit ("nano " ++ file)).state, false⟩ := by
    rw [takeLine, hmode]
    simp only [commandLine]
    rw [hvalue, hstate]
    rfl
  rw [hline, hstate, hcontent]
  constructor
  · rfl
  · refine ⟨none, ?_⟩
    by_cases hempty : opened.value.content = ""
    · simp [Editor.open, edited, hempty]
    · simp [Editor.open, edited, hempty]
  · rfl
  · exact FileSystem.content_openFile hopened

/-- A line of text joins the buffer and leaves the file alone. -/
theorem text (h : Typing st dir file content lines) (hline : types line = true) :
    Typing (takeLine st line).state dir file content (lines ++ [line]) := by
  obtain ⟨status, hmode⟩ := h.mode
  have hstep : (takeLine st line).state =
      ⟨st.session.editorInput (appendLine (edited content lines) line st.typed), true⟩ := by
    rw [takeLine, hmode]
    simp only [editLine, ofLine?_of_types hline]
  rw [hstep, Session.editorInput, hmode, h.typed, ← edited_append_of_types hline]
  constructor
  · exact h.cwd
  · exact ⟨status, rfl⟩
  · simp [hline]
  · rw [saved_append_of_types hline]
    exact h.content

theorem save (h : Typing st dir file content lines) (hline : saves line = true) {read : String}
    (hread : EditorCommand.ofLine? read = some .save) :
    Typing (takeLine st read).state dir file content (lines ++ [line]) := by
  obtain ⟨status, hmode⟩ := h.mode
  obtain ⟨there, -, hdir, -, -⟩ := FileSystem.content_eq_ok_iff.1 h.content
  have hwritten := FileSystem.write_of_some hdir file (edited content lines)
  have hstep : (takeLine st read).state =
      ⟨(st.session.save ⟨dir, file, edited content lines, status⟩).state, st.typed⟩ := by
    rw [takeLine, hmode]
    simp only [editLine, hread, Session.editorCommand, hmode]
  have htypes : types line = false := by
    rw [types, hline]
    rfl
  rw [hstep, Session.save_of_write hwritten]
  constructor
  · exact h.cwd
  · rw [edited_append_of_saves hline]
    exact ⟨_, rfl⟩
  · rw [h.typed]
    simp [htypes]
  · rw [saved_append_of_saves hline]
    exact FileSystem.content_write hwritten

/-- Leaving the editor leaves the file as it was saved. -/
theorem exit (h : Typing st dir file content lines)
    (hline : EditorCommand.ofLine? line = some .exit) :
    (takeLine st line).state.session.mode = .prompting ∧
      (takeLine st line).state.session.cwd = dir ∧
      (takeLine st line).state.session.fs.content dir file = .ok (saved content lines) := by
  obtain ⟨status, hmode⟩ := h.mode
  have hstep : (takeLine st line).state = ⟨{ st.session with mode := .prompting }, st.typed⟩ := by
    rw [takeLine, hmode]
    simp only [editLine, hline, Session.editorCommand, hmode]
  rw [hstep]
  exact ⟨rfl, h.cwd, h.content⟩

theorem run (h : Typing st dir file content []) {lines : List String}
    (hlines : ∀ line ∈ lines, IsEdit line) :
    Typing (Run.state takeLine st (lines.map Text.withoutReturn)) dir file content lines := by
  -- Both `edited` and `saved` grow with the last line.
  induction lines using List.reverseRecOn with
  | nil => exact h
  | append_singleton lines line ih =>
    have hbefore := ih fun other hother => hlines other (List.mem_append_left _ hother)
    rw [List.map_append, Run.state_append, List.map_singleton, Run.state_cons, Run.state_nil]
    obtain ⟨-, hsave | ⟨htext, hreturn⟩⟩ := hlines line (by simp)
    · refine hbefore.save hsave ?_
      rw [ofLine?_withoutReturn, ofLine?_of_saves hsave]
    · rw [Text.withoutReturn_of_getLast? hreturn]
      exact hbefore.text htext

end Typing

/-! ## Whole runs -/

theorem read_eq (s : Session) {lines : List String} (h : ∀ line ∈ lines, '\n' ∉ line.toList) :
    read s lines =
      (Run.state takeLine ⟨s, false⟩ (lines.map Text.withoutReturn)).session := by
  rw [read, Text.linesOfBytes_bytesOfLines h, run, takeLines_state, readable_map_some]

/-- Reading a line moves the session only by what can be done to any session. -/
theorem standing_takeLine {st : State} (h : Session.Standing st.session) (line : String) :
    Session.Standing (takeLine st line).state.session := by
  rw [takeLine]
  split
  · rw [editLine]
    split
    · exact h.editorCommand _
    · exact h.editorInput _
  · rw [commandLine]
    dsimp only
    split
    · exact (h.submit line).congr rfl rfl
    · exact h.submit line

/-- The line that calls `nano` is read as it was typed. -/
theorem nano_line {file : String} (hfile : Text.IsWord file) :
    '\n' ∉ ("nano " ++ file).toList ∧ ("nano " ++ file).toList.getLast? ≠ some '\r' := by
  have hchars : ∀ c ∈ ("nano " ++ file).toList, c ≠ '\n' ∧ c ≠ '\r' := by
    intro c hc
    rw [String.toList_append, List.mem_append] at hc
    rcases hc with hc | hc
    · have hprefix : ∀ c ∈ "nano ".toList, c ≠ '\n' ∧ c ≠ '\r' := by simp
      exact hprefix c hc
    · have hblank := hfile.not_blank c hc
      constructor
      · rintro rfl
        cases hblank
      · rintro rfl
        cases hblank
  constructor
  · exact fun hmem => (hchars _ hmem).1 rfl
  · exact fun hlast => (hchars _ (List.mem_of_getLast? hlast)).2 rfl

theorem standing_read (settings : Settings) (actions : List Session.Action) {lines : List String}
    (h : ∀ line ∈ lines, '\n' ∉ line.toList) :
    Session.Standing (read (Session.after settings actions) lines) := by
  rw [read_eq _ h]
  exact Run.invariant (P := fun st : State => Session.Standing st.session)
    (fun _ line hst => standing_takeLine hst line) (.after settings actions) _

/-- A file that is edited from the prompt holds, once the editor is left, its old content and all
lines of text up to the last save, or just its old content if nothing was saved. -/
theorem content_read (settings : Settings) (actions : List Session.Action)
    {earlier : List String} (hearlier : ∀ line ∈ earlier, '\n' ∉ line.toList)
    (hmode : (read (Session.after settings actions) earlier).mode = .prompting)
    {file : String} (hfile : Text.IsWord file)
    {edits : List String} (hedits : ∀ line ∈ edits, IsEdit line)
    {exit : String} (hexit : '\n' ∉ exit.toList ∧ exits exit = true) :
    let s := read (Session.after settings actions) earlier
    let left :=
      read (Session.after settings actions) (earlier ++ ("nano " ++ file) :: edits ++ [exit])
    left.mode = .prompting ∧ left.cwd = s.cwd ∧
      left.fs.content s.cwd file =
        .ok (saved ((s.fs.content s.cwd file).toOption.getD "") edits) := by
  intro s left
  have hall : ∀ line ∈ earlier ++ ("nano " ++ file) :: edits ++ [exit], '\n' ∉ line.toList := by
    intro line hline
    simp only [List.mem_append, List.mem_cons, List.not_mem_nil, or_false] at hline
    rcases hline with (hline | rfl | hline) | rfl
    · exact hearlier line hline
    · exact (nano_line hfile).1
    · exact (hedits line hline).1
    · exact hexit.1
  have hstanding : Session.Standing s := standing_read settings actions hearlier
  -- The front end between the earlier lines and the call of the editor.
  obtain ⟨st, hst⟩ : ∃ st, st = Run.state takeLine ⟨Session.after settings actions, false⟩
      (earlier.map Text.withoutReturn) := ⟨_, rfl⟩
  have hs : s = st.session := by
    rw [hst]
    exact read_eq _ hearlier
  have hleft : left = (takeLine (Run.state takeLine (takeLine st ("nano " ++ file)).state
      (edits.map Text.withoutReturn)) (Text.withoutReturn exit)).state.session := by
    have hnano := Text.withoutReturn_of_getLast? (nano_line hfile).2
    rw [hst]
    refine (read_eq _ hall).trans ?_
    simp only [List.map_append, List.map_cons, List.map_nil, Run.state_append, Run.state_cons,
      Run.state_nil, hnano]
  rw [hs] at hstanding
  have hopened := Typing.opened hstanding (hs ▸ hmode) hfile
  have hexits : EditorCommand.ofLine? (Text.withoutReturn exit) = some .exit := by
    rw [ofLine?_withoutReturn, ofLine?_of_exits hexit.2]
  rw [hleft, hs]
  exact (hopened.run hedits).exit hexits

/-- A file with a blank line in front is opened again in the same run, gets two lines of text, is
saved from a line with a carriage return, and loses the third. -/
theorem content_read_notes :
    let earlier := ["cd home", "nano notes", "", "old", "^S", "^X"]
    let edits := ["more", "", " ^s\r", "lost"]
    (∀ line ∈ earlier, '\n' ∉ line.toList) ∧
      (read (Session.after .standard [.submit "mkdir docs"]) earlier).mode = .prompting ∧
      Text.IsWord "notes" ∧ (∀ line ∈ edits, IsEdit line) ∧
      ('\n' ∉ "\x18".toList ∧ exits "\x18" = true) ∧
      (read (Session.after .standard [.submit "mkdir docs"])
          (earlier ++ ("nano " ++ "notes") :: edits ++ ["\x18"])).fs.content "/home/" "notes" =
        .ok "\nold\nmore\n" := by
  intro earlier edits
  have hearlier : ∀ line ∈ earlier, '\n' ∉ line.toList := by decide
  have hread := read_eq (Session.after .standard [.submit "mkdir docs"]) hearlier
  have hmode : (read (Session.after .standard [.submit "mkdir docs"]) earlier).mode =
      .prompting := by
    rw [hread]
    rfl
  have hfile : Text.IsWord "notes" := by decide
  have hedits : ∀ line ∈ edits, IsEdit line := by decide
  have hexit : '\n' ∉ "\x18".toList ∧ exits "\x18" = true := by decide
  refine ⟨hearlier, hmode, hfile, hedits, hexit, ?_⟩
  have hcwd : (read (Session.after .standard [.submit "mkdir docs"]) earlier).cwd = "/home/" := by
    rw [hread]
    rfl
  have hold : (read (Session.after .standard [.submit "mkdir docs"]) earlier).fs.content "/home/"
      "notes" = .ok "\nold" := by
    rw [hread]
    rfl
  have hcontent := (content_read .standard [.submit "mkdir docs"] hearlier hmode hfile hedits
    hexit).2.2
  rw [hcwd, hold] at hcontent
  exact hcontent

end MemShell.Transcript
