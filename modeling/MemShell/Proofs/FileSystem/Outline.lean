import MemShell.Proofs.FileSystem.TreeShaped

/-!
# Outlines

The outline of a file system says which directories there are and which names each of them holds,
in order; what the files hold is left out. The events of an operation tell how the outline changes:
`Outline.note` keeps an outline up to date by events alone, and `tells_makeDirectory` and the like
say that this agrees with what the operation does. An event of a directory gives its path only, so
the parent and the name in the parent's list are read off the path. In a tree these are the right
ones.
-/

namespace MemShell

namespace Directory

theorem listing_of_isEmpty {dir : Directory} (h : dir.isEmpty = true) :
    dir.listing = ⟨[], []⟩ := by
  obtain ⟨hfiles, hlisted⟩ := isEmpty_iff.1 h
  rw [listing, hfiles, hlisted, List.map_nil]

theorem listing_dropSubdirectory {dir : Directory} (name : String)
    (h : dir.subdirectories.Nodup) :
    (dir.dropSubdirectory name).listing =
      { dir.listing with dirs := dir.listing.dirs.erase name } := by
  have hdirs : (dir.dropSubdirectory name).subdirectories = dir.subdirectories.erase name := by
    rw [h.erase_eq_filter, dropSubdirectory]
    exact List.filter_congr fun other _ => Bool.eq_iff_iff.2 (by simp)
  rw [listing, hdirs]
  rfl

theorem listing_addFile {dir : Directory} {name : String} (h : dir.file? name = none) :
    (dir.addFile ⟨name, ""⟩).listing =
      { dir.listing with
        files :=
          if name ∈ dir.listing.files then dir.listing.files else dir.listing.files ++ [name] } := by
  have hname : name ∉ dir.listing.files := file?_eq_none_iff.1 h
  rw [if_neg hname, addFile, listing, listing, List.map_append, List.map_singleton]

theorem listing_putFile (dir : Directory) (name content : String) :
    (dir.putFile name content).listing =
      { dir.listing with
        files :=
          if name ∈ dir.listing.files then dir.listing.files else dir.listing.files ++ [name] } := by
  rw [listing, listing, putFile, names_putContent]

theorem listing_dropFile (dir : Directory) (name : String) :
    (dir.dropFile name).listing = { dir.listing with files := dir.listing.files.erase name } := by
  have hname : (fun file : File => file.name == name) = (name == ·) ∘ (·.name) := by
    funext file
    exact Bool.beq_comm
  rw [listing, listing, dropFile, List.erase_eq_eraseP, List.eraseP_map, hname]

end Directory

/-- The event is about a directory or a file. -/
def Event.isOfTree : Event → Bool
  | .directoryCreated _ | .directoryRemoved _ | .fileCreated _ _ | .fileRemoved _ _
  | .fileWritten _ _ _ => true
  | .changedDirectory _ _ | .editorOpened _ _ | .editorClosed _ | .lineRefused _
  | .editorCommandRefused _ | .desktopFolderCreated _ | .desktopFolderRejected _
  | .folderWindowOpened _ | .editorShortcut _ => false

namespace FileSystem

/-- The names in each directory that is there, by the directory's path. -/
abbrev Outline := Std.ExtTreeMap String Listing

namespace Outline

/-- The outline that holds only the root. -/
def bare : Outline := (∅ : Outline).insert Path.root ⟨[], []⟩

/-- The outline after an event. Events that are not about directories or files do not matter. -/
def note (o : Outline) : Event → Outline
  | .directoryCreated path =>
    (o.insert path ⟨[], []⟩).modify (Path.parent path) fun there =>
      { there with dirs := there.dirs ++ [Path.lastName path] }
  | .directoryRemoved path =>
    (o.erase path).modify (Path.parent path) fun there =>
      { there with dirs := there.dirs.erase (Path.lastName path) }
  | .fileCreated dir name | .fileWritten dir name _ =>
    o.modify dir fun there =>
      { there with files := if name ∈ there.files then there.files else there.files ++ [name] }
  | .fileRemoved dir name =>
    o.modify dir fun there => { there with files := there.files.erase name }
  | .changedDirectory _ _ | .editorOpened _ _ | .editorClosed _ | .lineRefused _
  | .editorCommandRefused _ | .desktopFolderCreated _ | .desktopFolderRejected _
  | .folderWindowOpened _ | .editorShortcut _ => o

end Outline

def outline (fs : FileSystem) : Outline := fs.index.map fun _ dir => dir.listing

variable {fs : FileSystem}

/-! ## Looking up -/

theorem getElem?_outline (fs : FileSystem) (path : String) :
    fs.outline[path]? = (fs.directory? path).map Directory.listing :=
  Std.ExtTreeMap.getElem?_map

theorem getElem?_outline_eq_list (fs : FileSystem) (path : String) :
    fs.outline[path]? = (fs.list path).toOption := by
  rw [getElem?_outline, list]
  cases hdir : fs.directory? path with
  | none =>
    rw [directory_of_none hdir]
    rfl
  | some dir =>
    rw [directory_of_some hdir]
    rfl

theorem getElem?_insert (o : Outline) (path other : String) (there : Listing) :
    (o.insert path there)[other]? = if path = other then some there else o[other]? := by
  simp [Std.ExtTreeMap.getElem?_insert]

theorem getElem?_erase (o : Outline) (path other : String) :
    (o.erase path)[other]? = if path = other then none else o[other]? := by
  simp [Std.ExtTreeMap.getElem?_erase]

theorem getElem?_modify (o : Outline) (path other : String) (f : Listing → Listing) :
    (o.modify path f)[other]? = if path = other then o[other]?.map f else o[other]? := by
  by_cases hpath : path = other
  · simp [hpath]
  · simp [Std.ExtTreeMap.getElem?_modify, hpath]

/-- An outline is known from the directories. -/
theorem outline_eq {o : Outline}
    (h : ∀ path, o[path]? = (fs.directory? path).map Directory.listing) : o = fs.outline := by
  refine Std.ExtTreeMap.ext_getElem? fun path => ?_
  rw [h, getElem?_outline]

theorem outline_bare : Outline.bare = bare.outline := by
  refine outline_eq fun path => ?_
  rw [Outline.bare, directory?_bare, getElem?_insert, Std.ExtTreeMap.getElem?_empty]
  by_cases hroot : Path.root = path
  · rw [if_pos hroot, if_pos hroot.symm]
    rfl
  · rw [if_neg hroot, if_neg (Ne.symm hroot)]
    rfl

/-- Replacing a directory that is there changes the outline at its path. -/
theorem outline_put {path : String} {dir other : Directory} {f : Listing → Listing}
    (hdir : fs.directory? path = some dir) (hf : f dir.listing = other.listing) :
    fs.outline.modify path f = (fs.put path other).outline := by
  refine outline_eq fun place => ?_
  rw [getElem?_modify, directory?_put, getElem?_outline]
  split
  · next heq =>
    rw [← heq, hdir, Option.map_some, Option.map_some, Option.map_some, hf]
  · rfl

/-- The events are about directories and files and tell how the outline of `fs` becomes the one of
`next`. -/
structure Tells (fs : FileSystem) (events : List Event) (next : FileSystem) : Prop where
  isOfTree : ∀ event ∈ events, event.isOfTree = true
  foldl_note : events.foldl Outline.note fs.outline = next.outline

/-- Nothing has happened. -/
theorem Tells.refl (fs : FileSystem) : fs.Tells [] fs := ⟨by simp, rfl⟩

theorem Tells.of_event {event : Event} {next : FileSystem} (hevent : event.isOfTree = true)
    (h : Outline.note fs.outline event = next.outline) : fs.Tells [event] next := by
  refine ⟨fun other hother => ?_, h⟩
  rw [List.mem_singleton.1 hother]
  exact hevent

theorem Tells.trans {events more : List Event} {next last : FileSystem}
    (h : fs.Tells events next) (hnext : next.Tells more last) : fs.Tells (events ++ more) last := by
  refine ⟨fun event hevent => ?_, ?_⟩
  · rcases List.mem_append.1 hevent with hevent | hevent
    · exact h.isOfTree event hevent
    · exact hnext.isOfTree event hevent
  · rw [List.foldl_append, h.foldl_note, hnext.foldl_note]

/-! ## Directories -/

theorem tells_makeDirectory {parent name : String} {made : Outcome FileSystem String}
    (h : TreeShaped ValidName fs) (hmade : fs.makeDirectory parent name = .ok made) :
    fs.Tells made.events made.state := by
  obtain ⟨hname, -, dir, hdir, rfl⟩ := makeDirectory_ok hmade
  have hname : ValidName name := hname
  have hparent := h.segment_of_directory? hdir
  rw [Path.join_eq_child hparent hname.isName]
  refine .of_event rfl (outline_eq fun path => ?_)
  rw [Outline.note, getElem?_modify, getElem?_insert, Path.parent_child hparent hname.isSegment,
    Path.lastName_child hparent hname.isSegment, directory?_put, directory?_put, getElem?_outline]
  by_cases hpath : parent = path
  · subst hpath
    rw [if_pos rfl, if_pos rfl, if_neg (Path.child_ne_self hparent hname.isSegment), hdir]
    rfl
  · rw [if_neg hpath, if_neg hpath]
    split
    · rfl
    · rfl

theorem tells_makeDirectories {parent : String} {names : List String}
    (h : TreeShaped ValidName fs) :
    fs.Tells (fs.makeDirectories parent names).events
      (fs.makeDirectories parent names).state := by
  induction names generalizing fs with
  | nil => exact .refl fs
  | cons name names ih =>
    rw [makeDirectories]
    cases hmade : fs.makeDirectory parent name with
    | ok made => exact (tells_makeDirectory h hmade).trans (ih (h.makeDirectory hmade))
    | error e => exact ih h

theorem tells_startup : bare.Tells startup.events startup.state := by
  simp only [startup]
  exact tells_makeDirectories TreeShaped.bare

theorem tells_removeDirectory {path : String} {removed : Outcome FileSystem Unit}
    (h : TreeShaped ValidName fs) (hremoved : fs.removeDirectory path = .ok removed) :
    fs.Tells removed.events removed.state := by
  obtain ⟨hroot, dir, hdir, -, hevents, hstate⟩ := removeDirectory_ok hremoved
  rw [hevents]
  refine .of_event rfl (outline_eq fun place => ?_)
  rw [Outline.note, getElem?_modify, getElem?_erase, hstate, getElem?_outline]
  by_cases hself : place = path
  · subst hself
    simp
  · rw [if_neg (Ne.symm hself), if_neg hself]
    by_cases hparent : place = Path.parent path
    · subst hparent
      rw [if_pos rfl, if_pos rfl]
      cases hup : fs.directory? (Path.parent path) with
      | none => rfl
      | some up =>
        -- The parent drops the name of the entry, and in a tree this is the last of the path.
        rw [Option.map_some, Option.map_some, Option.map_some, Option.map_some,
          ← (h.fits hdir).name_eq hroot,
          Directory.listing_dropSubdirectory dir.name (h.fits hup).nodup_subdirectories]
    · rw [if_neg (Ne.symm hparent), if_neg hparent]

/-- Each directory that was made has an event, and a name that was refused has none. -/
theorem events_makeDirectories (fs : FileSystem) (parent : String) (names : List String) :
    (fs.makeDirectories parent names).events =
      ((fs.makeDirectories parent names).value.filterMap Except.toOption).map
        .directoryCreated := by
  induction names generalizing fs with
  | nil => rfl
  | cons name names ih =>
    rw [makeDirectories]
    cases hmade : fs.makeDirectory parent name with
    | ok made =>
      obtain ⟨-, -, dir, -, rfl⟩ := makeDirectory_ok hmade
      exact congrArg _ (ih _)
    | error e => exact ih fs

/-! ## Files -/

theorem tells_openFile {path name : String} {opened : Outcome FileSystem File}
    (hopened : fs.openFile path name = .ok opened) : fs.Tells opened.events opened.state := by
  obtain ⟨dir, hdir, ⟨file, -, rfl⟩ | ⟨hfresh, rfl⟩⟩ := openFile_ok hopened
  · exact .refl fs
  · exact .of_event rfl (outline_put hdir (Directory.listing_addFile hfresh).symm)

theorem tells_erase {path name : String} {removed : Outcome FileSystem Unit}
    (hremoved : fs.erase path name = .ok removed) : fs.Tells removed.events removed.state := by
  obtain ⟨dir, file, hdir, -, rfl⟩ := erase_ok hremoved
  exact .of_event rfl (outline_put hdir (Directory.listing_dropFile dir name).symm)

theorem tells_write {path name content : String} {written : Outcome FileSystem Unit}
    (hwritten : fs.write path name content = .ok written) :
    fs.Tells written.events written.state := by
  obtain ⟨dir, hdir, rfl⟩ := write_ok hwritten
  exact .of_event rfl (outline_put hdir (Directory.listing_putFile dir name content).symm)

end FileSystem

end MemShell
