import MemShell.Proofs.Path.Display
import MemShell.Proofs.Path.Within
import MemShell.Proofs.Session.EditorLock
import MemShell.Proofs.Session.Operations

/-!
# Paths of files

The editor shows where its file is and says so again when it closes: the path of the directory and,
behind it, the name of the file. Directories end in a slash, so this tells files apart as long as
their names have no slashes. But the names of files are not checked, and a name can spell out the
way to a file further down: `home/x` in the root has the path of `x` in `/home/`
(`shared_path_below`). This is the only way in which two files come to have one path
(`Editor.path_eq_iff`), so the path and the title of an editor tell which file it is on, up to such
names (`editor_shows_file`).
-/

namespace MemShell

namespace Editor

/-- The file of the editor is there. -/
def IsStored (editor : Editor) (fs : FileSystem) : Prop :=
  ∃ content, fs.content editor.dir editor.file = .ok content

def SameFile (editor other : Editor) : Prop :=
  editor.dir = other.dir ∧ editor.file = other.file

/-- The other file is further down, and the name of this one is the way there. -/
def NamesThrough (editor other : Editor) : Prop :=
  ∃ names, names ≠ [] ∧ Path.segments other.dir = Path.segments editor.dir ++ names ∧
    editor.file = Path.way names ++ other.file

variable {editor other : Editor}

theorem SameFile.symm (h : editor.SameFile other) : other.SameFile editor :=
  ⟨h.1.symm, h.2.symm⟩

theorem SameFile.path_eq (h : editor.SameFile other) : editor.path = other.path := by
  rw [path, h.1, h.2, path]

/-- Each name on the way has a slash behind it. -/
theorem NamesThrough.slash_mem (h : editor.NamesThrough other) : '/' ∈ editor.file.toList := by
  obtain ⟨names, hne, -, hfile⟩ := h
  obtain ⟨name, names, rfl⟩ := List.exists_cons_of_ne_nil hne
  simp [hfile, Path.way]

theorem NamesThrough.path_eq (hdir : Path.IsCanonical Path.IsSegment editor.dir)
    (hother : Path.IsCanonical Path.IsSegment other.dir) (h : editor.NamesThrough other) :
    editor.path = other.path := by
  obtain ⟨names, -, hnames, hfile⟩ := h
  have hdown := (hother.eq_append_iff hdir).2 ⟨names, hnames, rfl⟩
  rw [path, hfile, path, hdown, String.append_assoc]

/-- If the text of one directory goes on where that of the other ends, the difference is in the name
of the file, and it is a way. -/
theorem sameFile_or_namesThrough (hdir : Path.IsCanonical Path.IsSegment editor.dir)
    (hother : Path.IsCanonical Path.IsSegment other.dir) {rest : List Char}
    (hrest : other.dir.toList = editor.dir.toList ++ rest)
    (hfile : editor.file.toList = rest ++ other.file.toList) :
    editor.SameFile other ∨ editor.NamesThrough other := by
  have hdown : other.dir = editor.dir ++ String.ofList rest :=
    String.toList_injective (by simp [hrest])
  have hname : editor.file = String.ofList rest ++ other.file :=
    String.toList_injective (by simp [hfile])
  obtain ⟨names, hnames, hway⟩ := (hother.eq_append_iff hdir).1 hdown
  rw [hway] at hname
  cases names with
  | nil =>
    rw [List.append_nil] at hnames
    refine .inl ⟨?_, hname.trans (String.empty_append)⟩
    rw [← hdir.ofSegments_segments, ← hnames, hother.ofSegments_segments]
  | cons name names => exact .inr ⟨name :: names, List.cons_ne_nil name names, hnames, hname⟩

/-- Two files have one path only if they are one file or the name of one is the way to the other. -/
theorem path_eq_iff (hdir : Path.IsCanonical Path.IsSegment editor.dir)
    (hother : Path.IsCanonical Path.IsSegment other.dir) :
    editor.path = other.path ↔
      editor.SameFile other ∨ editor.NamesThrough other ∨ other.NamesThrough editor := by
  constructor
  · intro h
    have htext := congrArg String.toList h
    simp only [path, String.toList_append] at htext
    rcases List.append_eq_append_iff.1 htext with ⟨rest, hrest, hfile⟩ | ⟨rest, hrest, hfile⟩
    · exact (sameFile_or_namesThrough hdir hother hrest hfile).imp_right .inl
    · exact (sameFile_or_namesThrough hother hdir hrest hfile).imp SameFile.symm .inr
  · rintro (h | h | h)
    · exact h.path_eq
    · exact h.path_eq hdir hother
    · exact (h.path_eq hother hdir).symm

/-- Without slashes in the name the title shows the path as it is. -/
theorem title_eq (hne : editor.file ≠ "") (hfree : '/' ∉ editor.file.toList) :
    editor.title = "nano  " ++ editor.path := by
  rw [title, path, Path.display_append hne hfree]

end Editor

namespace Session

variable {s : Session} {editor : Editor}

theorem Standing.canonical_dir (h : Standing s) (hstored : editor.IsStored s.fs) :
    Path.IsCanonical Path.IsSegment editor.dir := by
  obtain ⟨content, hcontent⟩ := hstored
  obtain ⟨dir, -, hdir, -⟩ := FileSystem.content_eq_ok_iff.1 hcontent
  exact h.tree.segment_of_directory? hdir

/-- Whatever closes the editor logs its path. -/
theorem events_exit (hmode : s.mode = .editing editor) {action : Action}
    (hexit : action.control? = some .exit) :
    (s.act action).events = [.editorClosed editor.path] := by
  cases action with
  | editorCommand command =>
    cases hexit
    simp only [act, editorCommand, hmode]
  | editorKey ctrl key =>
    have hkey : EditorCommand.ofKey? ctrl key = some .exit := hexit
    simp only [act, editorKey, isEditing_of_editing hmode, hkey, editorCommand, hmode, ↓reduceIte]
  | submit | execute | editorInput | setView | createFolder => cases hexit

/-- After any actions but commands executed past the command line, two files that are there have one
path exactly if they are one file or the name of one spells out the way from its directory down to
the other. So files without slashes in their names are told apart by their paths and by the titles
that editors on them have. An open editor is on a file that is there, and it logs the path of this
file when it closes. -/
theorem editor_shows_file (settings : Settings) (actions : List Action)
    (hlines : ∀ command, .execute command ∉ actions) :
    let s := after settings actions
    (∀ editor other : Editor, editor.IsStored s.fs → other.IsStored s.fs →
      (editor.path = other.path ↔
        editor.SameFile other ∨ editor.NamesThrough other ∨ other.NamesThrough editor) ∧
      ('/' ∉ editor.file.toList → '/' ∉ other.file.toList →
        editor.path = other.path ∨ editor.title = other.title → editor.SameFile other)) ∧
    ∀ editor, s.mode = .editing editor →
      editor.IsStored s.fs ∧
        ∀ action, action.control? = some .exit →
          (s.act action).events = [.editorClosed editor.path] := by
  intro s
  have hstanding : Standing s := .after settings actions
  have hne : ∀ {editor : Editor}, editor.IsStored s.fs → editor.file ≠ "" := by
    intro editor hstored
    exact (isWord_of_listed settings hlines (FileSystem.mem_files_listing.2 hstored)).ne_empty
  refine ⟨fun editor other heditor hother => ?_, fun editor hmode => ⟨?_, fun action hexit => ?_⟩⟩
  · have hiff :=
      Editor.path_eq_iff (hstanding.canonical_dir heditor) (hstanding.canonical_dir hother)
    refine ⟨hiff, fun hfree hfree' h => ?_⟩
    have hpath : editor.path = other.path := by
      refine h.elim id fun htitle => ?_
      rw [Editor.title_eq (hne heditor) hfree, Editor.title_eq (hne hother) hfree'] at htitle
      exact (String.append_right_inj _).1 htitle
    rcases hiff.1 hpath with hsame | hthrough | hthrough
    · exact hsame
    · exact absurd hthrough.slash_mem hfree
    · exact absurd hthrough.slash_mem hfree'
  · have hstart : Locked (start settings).state "" := .of_prompting (.start settings) rfl
    have hlocked : Locked s (stored (start settings).state "" actions) := hstart.run hlines
    refine ⟨stored (start settings).state "" actions, ?_⟩
    rw [hlocked.dir editor hmode]
    exact hlocked.content editor hmode
  · exact events_exit hmode hexit

/-- In `/home` the editor is on `x`. The `x` in the root is told apart from that, and `home/x` there
is not. -/
theorem editor_shows_file_home :
    let actions : List Action :=
      [.submit "nano home/x", .editorCommand .exit, .submit "nano x", .editorKey true "x",
        .submit "cd home", .submit "nano x"]
    let s := after .standard actions
    let editor : Editor := .open "/home/" "x" ""
    let above : Editor := .open "/" "x" ""
    let through : Editor := .open "/" "home/x" ""
    ((∀ command, .execute command ∉ actions) ∧ s.mode = .editing editor) ∧
      (editor.IsStored s.fs ∧ above.IsStored s.fs ∧ through.IsStored s.fs) ∧
      ¬ (editor.path = above.path ∨ editor.title = above.title) ∧
      (editor.path = through.path ∧ through.NamesThrough editor) ∧
      (s.act (.editorKey true "X")).events = [.editorClosed editor.path] := by
  intro actions s editor above through
  have hlines : ∀ command, .execute command ∉ actions := by
    intro command
    simp [actions]
  have hmode : s.mode = .editing editor := rfl
  have habove : above.IsStored s.fs := FileSystem.mem_files_listing.1 (by decide +kernel)
  have hthrough : through.IsStored s.fs := FileSystem.mem_files_listing.1 (by decide +kernel)
  have hway : through.NamesThrough editor := ⟨["home"], by decide, by decide, by decide⟩
  obtain ⟨hpaths, hopen⟩ := editor_shows_file .standard actions hlines
  obtain ⟨hstored, hexit⟩ := hopen editor hmode
  have hapart : ¬ (editor.path = above.path ∨ editor.title = above.title) := fun h =>
    absurd ((hpaths editor above hstored habove).2 (by decide) (by decide) h).1 (by decide)
  have hshared := (hpaths editor through hstored hthrough).1.2 (.inr (.inr hway))
  exact ⟨⟨hlines, hmode⟩, ⟨hstored, habove, hthrough⟩, hapart, ⟨hshared, hway⟩,
    hexit (.editorKey true "X") rfl⟩

/-- The path of a file does not always tell which file it is, and neither does the title. -/
theorem shared_path_below :
    let s := after .standard
      [.submit "nano home/x", .editorCommand .exit, .submit "cd home", .submit "nano x"]
    ¬ (∀ editor other : Editor, editor.IsStored s.fs → other.IsStored s.fs →
        editor.path = other.path → editor.SameFile other) ∧
      ¬ (∀ editor other : Editor, editor.IsStored s.fs → other.IsStored s.fs →
        editor.title = other.title → editor.SameFile other) := by
  intro s
  have hbelow : (Editor.open "/home/" "x" "").IsStored s.fs :=
    FileSystem.mem_files_listing.1 (by decide +kernel)
  have habove : (Editor.open "/" "home/x" "").IsStored s.fs :=
    FileSystem.mem_files_listing.1 (by decide +kernel)
  have hother : ¬ (Editor.open "/home/" "x" "").SameFile (.open "/" "home/x" "") :=
    fun h => absurd h.2 (by decide)
  exact ⟨fun h => hother (h _ _ hbelow habove rfl), fun h => hother (h _ _ hbelow habove rfl)⟩

end Session

end MemShell
