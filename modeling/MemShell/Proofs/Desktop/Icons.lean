import MemShell.Proofs.Desktop.Action
import MemShell.Proofs.Session.Standing
import MemShell.Samples

/-!
# Icons and folders

The names of the icons are a second copy of the list of folders that the session keeps. A desktop
begins with an icon for each folder, and a new folder joins both lists at the end or neither, so the
two stay the same list (`Mirrors.act`, `icons_mirror_home`). In a tree that list has no name twice,
and each name leads to a directory that is there (`Standing.contains_folderPath`).
-/

namespace MemShell

namespace Session

variable {s : Session}

theorem homeFolders_of_some {dir : Directory} (hdir : s.fs.directory? Path.home = some dir) :
    s.homeFolders = dir.subdirectories := by
  rw [homeFolders, FileSystem.list, FileSystem.directory_of_some hdir]
  rfl

theorem homeFolders_of_none (hdir : s.fs.directory? Path.home = none) : s.homeFolders = [] := by
  rw [homeFolders, FileSystem.list, FileSystem.directory_of_none hdir]
  rfl

/-- A new folder is the last one. -/
theorem homeFolders_createFolder {name : String} {made : Outcome Session Unit}
    (h : s.createFolder name = .ok made) : made.state.homeFolders = s.homeFolders ++ [name] := by
  obtain ⟨folder, hfolder, rfl⟩ := createFolder_ok h
  obtain ⟨-, -, dir, hdir, rfl⟩ := FileSystem.makeDirectory_ok hfolder
  have hadded : dir.subdirectories ++ [name] = (dir.addSubdirectory name).subdirectories := rfl
  rw [homeFolders_of_some hdir, hadded]
  apply homeFolders_of_some
  exact FileSystem.directory?_put_self ..

theorem Standing.nodup_homeFolders (h : Standing s) : s.homeFolders.Nodup := by
  cases hdir : s.fs.directory? Path.home with
  | none =>
    rw [homeFolders_of_none hdir]
    exact List.nodup_nil
  | some dir =>
    rw [homeFolders_of_some hdir]
    exact (h.tree.fits hdir).nodup_subdirectories

/-- A folder lives where a window of its name looks for it. -/
theorem Standing.contains_folderPath (h : Standing s) {name : String}
    (hname : name ∈ s.homeFolders) : s.fs.contains (folderPath name) = true := by
  cases hdir : s.fs.directory? Path.home with
  | none =>
    rw [homeFolders_of_none hdir] at hname
    cases hname
  | some dir =>
    rw [homeFolders_of_some hdir] at hname
    have hvalid : FileSystem.ValidName name := (h.tree.fits hdir).listed name hname
    have hhome : Path.IsCanonical Path.IsSegment Path.home := h.tree.segment_of_directory? hdir
    rw [folderPath, Path.join_eq_child hhome hvalid.isName]
    exact (h.tree.child hhome hvalid.isSegment).2 ⟨dir, hdir, hname⟩

theorem exists_contents {path : String} (h : s.fs.contains path = true) :
    ∃ listing, s.contents path = .ok listing := by
  obtain ⟨dir, hdir⟩ := FileSystem.contains_eq_true_iff.1 h
  rw [contents, FileSystem.list, FileSystem.directory_of_some hdir]
  exact ⟨dir.listing, rfl⟩

end Session

variable {K : Type} [Coordinate K]

theorem Samples.names_scatter (samples : Samples K) (names : List String) :
    (samples.scatter names).1.map (·.1) = names := by
  induction names generalizing samples with
  | nil => rfl
  | cons name names ih => exact congrArg (name :: ·) (ih _)

namespace Desktop

variable {d : Desktop K} {s : Session}

/-! ## The names of the icons -/

def names (d : Desktop K) : List String := d.icons.map (·.name)

theorem names_start (viewport : Size K) (folders : List (String × Point K)) :
    (start viewport folders).names = folders.map (·.1) := by
  simp [names, start, placeIcon]

theorem names_addIcon (d : Desktop K) (viewport : Size K) (name : String) (share : Point K) :
    (d.addIcon viewport name share).names = d.names ++ [name] := by
  simp [names, addIcon, placeIcon]

/-- The icon that is dragged keeps its name. -/
theorem names_pointerMoved (d : Desktop K) (pointer : Point K) (viewport : Size K) :
    (d.pointerMoved pointer viewport).names = d.names := by
  rw [pointerMoved]
  split
  · rfl
  · next index _ =>
    -- The icon is changed in its place, so the names are compared place by place.
    apply List.ext_getElem?
    intro i
    simp only [names, List.getElem?_map, List.getElem?_modify]
    cases d.icons[i]? with
    | none => rfl
    | some icon =>
      by_cases hindex : index = i
      · simp [hindex]
      · simp [hindex]
  · rfl
  · rfl

/-! ## Desktop and session -/

/-- The icons of the desktop are the folders of the session, which stands in a tree. -/
structure Mirrors (d : Desktop K) (s : Session) : Prop where
  standing : Session.Standing s
  names : d.names = s.homeFolders

theorem Mirrors.createFolder (h : Mirrors d s) {viewport : Size K} {name : String}
    {share : Point K} {made : Outcome (Desktop K × Session) Unit}
    (hmade : d.createFolder s viewport name share = .ok made) :
    Mirrors made.state.1 made.state.2 := by
  unfold Desktop.createFolder at hmade
  split at hmade
  · next folder hfolder =>
    cases hmade
    refine ⟨h.standing.createFolder hfolder, ?_⟩
    rw [names_addIcon, Session.homeFolders_createFolder hfolder, h.names]
  · cases hmade

/-- Whatever is done to the desktop, its icons go on being the folders. -/
theorem Mirrors.act (h : Mirrors d s) (action : Action K) :
    Mirrors (Desktop.act (d, s) action).state.1 (Desktop.act (d, s) action).state.2 := by
  cases action with
  | createFolder viewport name share =>
    rw [Desktop.act]
    split
    · next made hmade => exact h.createFolder hmade
    · exact h
  | movePointer pointer viewport =>
    exact ⟨h.standing, (names_pointerMoved d pointer viewport).trans h.names⟩
  | openWindow | closeWindow | grabIcon | grabWindow | grabHandle | release =>
    exact ⟨h.standing, h.names⟩

/-- A desktop that begins with the folders of a session shows, after any actions, exactly the
folders of the session by then, each of them once, and each can be opened. -/
theorem icons_mirror_home (settings : Settings) (earlier : List Session.Action) (viewport : Size K)
    (samples : Samples K) (actions : List (Action K)) :
    let begun := Session.after settings earlier
    let shown := Run.state act
      (start viewport (samples.scatter begun.homeFolders).1, begun) actions
    shown.1.icons.map (·.name) = shown.2.homeFolders ∧ (shown.1.icons.map (·.name)).Nodup ∧
      ∀ icon ∈ shown.1.icons,
        shown.2.fs.contains (Session.folderPath icon.name) = true ∧
          ∃ listing, shown.2.contents (Session.folderPath icon.name) = .ok listing := by
  intro begun shown
  have hbegun : Mirrors (start viewport (samples.scatter begun.homeFolders).1) begun := by
    refine ⟨.after settings earlier, ?_⟩
    rw [names_start, samples.names_scatter]
  have hshown : Mirrors shown.1 shown.2 :=
    Run.invariant (fun _ action h => Mirrors.act h action) hbegun actions
  refine ⟨hshown.names, ?_, fun icon hicon => ?_⟩
  · have hnames : shown.1.icons.map (·.name) = shown.2.homeFolders := hshown.names
    rw [hnames]
    exact hshown.standing.nodup_homeFolders
  · have hfolder : icon.name ∈ shown.2.homeFolders := by
      rw [← hshown.names]
      exact List.mem_map_of_mem hicon
    have hthere := hshown.standing.contains_folderPath hfolder
    exact ⟨hthere, Session.exists_contents hthere⟩

end Desktop

end MemShell
