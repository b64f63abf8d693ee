import MemShell.Proofs.Creation
import MemShell.Proofs.FileSystem.Outline

/-!
# Listings in the order of creation

A file system keeps no times, but its listings tell what was made before what. Take a run with the
states that it went through as its history. Each step makes at most one directory or one file, takes
away at most one, and both lists of every directory follow (`follows_perform`). So a listing holds
the subdirectories and the files that last, in the order of their creation (`list_by_creation`),
also where the directory itself was removed and made again on the way: it had to be empty for that.
-/

namespace MemShell.FileSystem

/-- A step of a run: an operation, behind the file system that it met. -/
abbrev Step := FileSystem × Operation

def Step.Accepted (step : Step) : Prop := ∃ answer, (step.1.perform step.2).value = .ok answer

/-- The step makes the directory `name` in the one at `path`. -/
def MakesDirectory (path name : String) (step : Step) : Prop :=
  step.2 = .makeDirectory path name ∧ step.Accepted

def RemovesDirectory (path name : String) (step : Step) : Prop :=
  step.2 = .removeDirectory (Path.join path name) ∧ step.Accepted

/-- The step opens or writes the file `name` in the directory at `path`, where there was none. -/
def MakesFile (path name : String) (step : Step) : Prop :=
  (step.2 = .openFile path name ∨ ∃ content, step.2 = .write path name content) ∧
    step.Accepted ∧ ∀ content, step.1.content path name ≠ .ok content

def RemovesFile (path name : String) (step : Step) : Prop :=
  step.2 = .erase path name ∧ step.Accepted

/-- The listing holds what was made in the directory at `path` and not removed since, in the order
of creation, and no other list does. -/
structure ListedByCreation (history : List Step) (path : String) (listing : Listing) : Prop where
  dirs : ∀ names, Run.ByCreation (MakesDirectory path) (RemovesDirectory path) history names ↔
    names = listing.dirs
  files : ∀ names, Run.ByCreation (MakesFile path) (RemovesFile path) history names ↔
    names = listing.files

/-- What is listed at `path`: nothing, if there is no directory. -/
def listing (fs : FileSystem) (path : String) : Listing :=
  ((fs.directory? path).map Directory.listing).getD ⟨[], []⟩

/-- The listing with the file `name` in it, at the end if it is new. -/
def withFile (name : String) (listing : Listing) : Listing :=
  { listing with
    files := if name ∈ listing.files then listing.files else listing.files ++ [name] }

/-- The names listed at `path` change as the step says. -/
structure Follows (step : Step) (next : FileSystem) (path : String) : Prop where
  dirs : Run.Change (MakesDirectory path · step) (RemovesDirectory path · step)
    (step.1.listing path).dirs (next.listing path).dirs
  files : Run.Change (MakesFile path · step) (RemovesFile path · step)
    (step.1.listing path).files (next.listing path).files

variable {fs next : FileSystem} {path name : String} {dir : Directory}

/-! ## Listings -/

theorem listing_of_some (h : fs.directory? path = some dir) : fs.listing path = dir.listing := by
  rw [listing, h]
  rfl

theorem listing_of_none (h : fs.directory? path = none) : fs.listing path = ⟨[], []⟩ := by
  rw [listing, h]
  rfl

theorem listing_put (place : String) :
    (fs.put path dir).listing place = if path = place then dir.listing else fs.listing place := by
  rw [listing, directory?_put]
  split
  · rfl
  · rfl

/-- If a directory is replaced by one that lists something else, nothing else changes. -/
theorem listing_put_of_some {other : Directory} {change : Listing → Listing}
    (hdir : fs.directory? path = some dir) (hother : other.listing = change dir.listing)
    (place : String) :
    (fs.put path other).listing place =
      if path = place then change (fs.listing place) else fs.listing place := by
  rw [listing_put]
  split
  · next heq =>
    subst heq
    rw [hother, listing_of_some hdir]
  · rfl

theorem list_of_contains (h : fs.contains path = true) : fs.list path = .ok (fs.listing path) := by
  obtain ⟨dir, hdir⟩ := contains_eq_true_iff.1 h
  rw [list, directory_of_some hdir, listing_of_some hdir]
  rfl

/-- A file is listed exactly if it can be read. -/
theorem mem_files_listing :
    name ∈ (fs.listing path).files ↔ ∃ content, fs.content path name = .ok content := by
  simp only [content_eq_ok_iff]
  cases hdir : fs.directory? path with
  | none => simp [listing_of_none hdir]
  | some dir =>
    have hlisted : name ∈ dir.listing.files ↔ dir.file? name ≠ none := by
      rw [ne_eq, Directory.file?_eq_none_iff, Decidable.not_not]
      rfl
    rw [listing_of_some hdir, hlisted]
    cases hfile : dir.file? name with
    | none => simp [hfile]
    | some file => simp [hfile]

/-- In a tree a listed subdirectory is there, below the directory that lists it. -/
theorem TreeShaped.contains_of_listed (h : TreeShaped ValidName fs)
    (hname : name ∈ (fs.listing path).dirs) :
    Path.IsCanonical Path.IsSegment path ∧ ValidName name ∧
      fs.contains (Path.child path name) = true := by
  cases hdir : fs.directory? path with
  | none =>
    rw [listing_of_none hdir] at hname
    cases hname
  | some dir =>
    rw [listing_of_some hdir] at hname
    have hpath := h.segment_of_directory? hdir
    have hvalid : ValidName name := (h.fits hdir).listed name hname
    exact ⟨hpath, hvalid, (h.child hpath hvalid.isSegment).2 ⟨dir, hdir, hname⟩⟩

theorem listing_bare (path : String) : bare.listing path = ⟨[], []⟩ := by
  rw [listing, directory?_bare]
  split
  · rfl
  · rfl

/-! ## Directories that are made and removed -/

/-- A new directory lists nothing, so only its parent shows of it. -/
theorem listing_makeDirectory {parent : String} {made : Outcome FileSystem String}
    (hmade : fs.makeDirectory parent name = .ok made) (path : String) :
    made.state.listing path =
      if parent = path then { fs.listing path with dirs := (fs.listing path).dirs ++ [name] }
      else fs.listing path := by
  obtain ⟨-, hfresh, dir, hdir, rfl⟩ := makeDirectory_ok hmade
  rw [listing_put, listing_put]
  split
  · next heq =>
    subst heq
    rw [listing_of_some hdir]
    rfl
  · split
    · next heq =>
      subst heq
      rw [listing_of_none hfresh]
      rfl
    · rfl

theorem follows_makeDirectory {parent : String} {made : Outcome FileSystem String}
    (h : TreeShaped ValidName fs) (hmade : fs.makeDirectory parent name = .ok made)
    (haccepted : Step.Accepted (fs, .makeDirectory parent name)) (path : String) :
    Follows (fs, .makeDirectory parent name) made.state path := by
  have hfresh : name ∉ (fs.listing parent).dirs := by
    intro hlisted
    obtain ⟨hparent, hname, hthere⟩ := h.contains_of_listed hlisted
    obtain ⟨-, hfree, -⟩ := makeDirectory_ok hmade
    rw [Path.join_eq_child hparent hname.isName, ← contains_eq_false_iff, hthere] at hfree
    cases hfree
  have hremoved : ∀ other, ¬ RemovesDirectory path other (fs, .makeDirectory parent name) := by
    simp [RemovesDirectory]
  constructor
  · rw [listing_makeDirectory hmade]
    by_cases hpath : parent = path
    · subst hpath
      rw [if_pos rfl]
      exact .add (by simp [MakesDirectory, haccepted, eq_comm]) (fun other _ => hremoved other)
        hfresh
    · rw [if_neg hpath]
      exact .none (by simp [MakesDirectory, hpath]) fun other _ => hremoved other
  · have hfiles : (made.state.listing path).files = (fs.listing path).files := by
      rw [listing_makeDirectory hmade]
      split
      · rfl
      · rfl
    rw [hfiles]
    exact .none (by simp [MakesFile]) (by simp [RemovesFile])

/-- A directory that is removed lists nothing, so only its parent shows of that. -/
theorem listing_removeDirectory {removed : Outcome FileSystem Unit} (h : TreeShaped ValidName fs)
    (hremoved : fs.removeDirectory path = .ok removed) :
    ∃ up name, Path.IsCanonical Path.IsSegment up ∧ ValidName name ∧ path = Path.child up name ∧
      ∀ place, removed.state.listing place =
        if up = place then { fs.listing place with dirs := (fs.listing place).dirs.erase name }
        else fs.listing place := by
  obtain ⟨hroot, dir, hdir, hempty, -, hstate⟩ := removeDirectory_ok hremoved
  obtain ⟨up, hup, hname, rfl⟩ := (h.fits hdir).eq_child (fun _ => ValidName.isSegment) hroot
  refine ⟨up, dir.name, hup, hname, rfl, fun place => ?_⟩
  rw [listing, hstate, Path.parent_child hup hname.isSegment]
  by_cases hself : place = Path.child up dir.name
  · subst hself
    have hne : up ≠ Path.child up dir.name := (Path.child_ne_self hup hname.isSegment).symm
    rw [if_pos rfl, if_neg hne, listing_of_some hdir, Directory.listing_of_isEmpty hempty]
    rfl
  · rw [if_neg hself]
    by_cases hplace : up = place
    · subst hplace
      rw [if_pos rfl, if_pos rfl]
      cases hthere : fs.directory? up with
      | none =>
        rw [listing_of_none hthere]
        rfl
      | some there =>
        rw [listing_of_some hthere, Option.map_some, Option.map_some, Option.getD_some,
          Directory.listing_dropSubdirectory dir.name (h.fits hthere).nodup_subdirectories]
    · rw [if_neg (Ne.symm hplace), if_neg hplace, listing]

theorem follows_removeDirectory {removed : Outcome FileSystem Unit} (h : TreeShaped ValidName fs)
    (hremoved : fs.removeDirectory path = .ok removed)
    (haccepted : Step.Accepted (fs, .removeDirectory path)) (place : String) :
    Follows (fs, .removeDirectory path) removed.state place := by
  obtain ⟨up, name, hup, hname, rfl, hlisting⟩ := listing_removeDirectory h hremoved
  have hmade : ∀ other,
      ¬ MakesDirectory place other (fs, .removeDirectory (Path.child up name)) := by
    simp [MakesDirectory]
  -- What is removed is the child of one directory only, by the name that its parent lists.
  have htaken : ∀ other ∈ (fs.listing place).dirs,
      RemovesDirectory place other (fs, .removeDirectory (Path.child up name)) ↔
        up = place ∧ name = other := by
    intro other hother
    obtain ⟨hplace, hvalid, -⟩ := h.contains_of_listed hother
    simp [RemovesDirectory, haccepted, Path.join_eq_child hplace hvalid.isName,
      Path.child_inj hup hplace hname.isSegment hvalid.isSegment]
  constructor
  · rw [hlisting]
    by_cases hplace : up = place
    · rw [if_pos hplace]
      refine .drop hmade fun other hother => ?_
      exact (htaken other hother).trans ((and_iff_right hplace).trans eq_comm)
    · rw [if_neg hplace]
      exact .none hmade fun other hother => mt (htaken other hother).1 fun heq => hplace heq.1
  · have hfiles : (removed.state.listing place).files = (fs.listing place).files := by
      rw [hlisting]
      split
      · rfl
      · rfl
    rw [hfiles]
    exact .none (by simp [MakesFile]) (by simp [RemovesFile])

/-! ## Files that are made and removed -/

/-- A step that neither makes nor removes directories leaves those listed as they are. -/
theorem change_dirs_of_files {op : Operation} (hmake : ∀ up name, op ≠ .makeDirectory up name)
    (hremove : ∀ path, op ≠ .removeDirectory path)
    (hdirs : (next.listing path).dirs = (fs.listing path).dirs) :
    Run.Change (MakesDirectory path · (fs, op)) (RemovesDirectory path · (fs, op))
      (fs.listing path).dirs (next.listing path).dirs := by
  rw [hdirs]
  refine .none ?_ ?_
  · rintro name ⟨heq, -⟩
    exact hmake path name heq
  · rintro name - ⟨heq, -⟩
    exact hremove _ heq

/-- A file that is made adds its name if it is not listed. -/
theorem change_withFile {made removed : String → Prop} {listing : Listing}
    (hmade : ∀ other, made other ↔ name = other ∧ other ∉ listing.files)
    (hremoved : ∀ other, ¬ removed other) :
    Run.Change made removed listing.files (withFile name listing).files := by
  rw [withFile]
  by_cases hname : name ∈ listing.files
  · rw [if_pos hname]
    refine .none (fun other hnew => ?_) fun other _ => hremoved other
    obtain ⟨rfl, hfresh⟩ := (hmade other).1 hnew
    exact hfresh hname
  · rw [if_neg hname]
    refine .add (fun other => ?_) (fun other _ => hremoved other) hname
    rw [hmade]
    constructor
    · rintro ⟨rfl, -⟩
      rfl
    · rintro rfl
      exact ⟨rfl, hname⟩

theorem follows_makeFile {op : Operation} (haccepted : Step.Accepted (fs, op))
    (hop : op = .openFile path name ∨ ∃ content, op = .write path name content)
    (hlisting : ∀ place, next.listing place =
      if path = place then withFile name (fs.listing place) else fs.listing place)
    (place : String) : Follows (fs, op) next place := by
  have hmade : ∀ other, MakesFile place other (fs, op) ↔
      path = place ∧ name = other ∧ other ∉ (fs.listing place).files := by
    intro other
    rw [mem_files_listing, not_exists]
    rcases hop with rfl | ⟨content, rfl⟩
    · simp [MakesFile, haccepted, and_assoc]
    · simp [MakesFile, haccepted, and_assoc]
  have hremoved : ∀ other, ¬ RemovesFile place other (fs, op) := by
    rintro other ⟨heq, -⟩
    have heq : op = .erase place other := heq
    subst heq
    simp at hop
  constructor
  · refine change_dirs_of_files ?_ ?_ ?_
    · rintro up name rfl
      simp at hop
    · rintro path rfl
      simp at hop
    · rw [hlisting]
      split
      · rfl
      · rfl
  · rw [hlisting]
    by_cases hplace : path = place
    · rw [if_pos hplace]
      exact change_withFile (fun other => (hmade other).trans (and_iff_right hplace)) hremoved
    · rw [if_neg hplace]
      exact .none (fun other hnew => hplace ((hmade other).1 hnew).1) fun other _ => hremoved other

theorem follows_openFile {opened : Outcome FileSystem File}
    (hopened : fs.openFile path name = .ok opened)
    (haccepted : Step.Accepted (fs, .openFile path name)) (place : String) :
    Follows (fs, .openFile path name) opened.state place := by
  refine follows_makeFile haccepted (.inl rfl) (fun place => ?_) place
  obtain ⟨dir, hdir, ⟨file, hfile, rfl⟩ | ⟨hfresh, rfl⟩⟩ := openFile_ok hopened
  · have hname : name ∈ (fs.listing path).files :=
      mem_files_listing.2 ⟨_, content_eq_ok_iff.2 ⟨dir, file, hdir, hfile, rfl⟩⟩
    split
    · next heq =>
      subst heq
      rw [withFile, if_pos hname]
    · rfl
  · exact listing_put_of_some hdir (Directory.listing_addFile hfresh) place

theorem follows_write {content : String} {written : Outcome FileSystem Unit}
    (hwritten : fs.write path name content = .ok written)
    (haccepted : Step.Accepted (fs, .write path name content)) (place : String) :
    Follows (fs, .write path name content) written.state place := by
  refine follows_makeFile haccepted (.inr ⟨content, rfl⟩) (fun place => ?_) place
  obtain ⟨dir, hdir, rfl⟩ := write_ok hwritten
  exact listing_put_of_some hdir (dir.listing_putFile name content) place

theorem follows_erase {removed : Outcome FileSystem Unit}
    (hremoved : fs.erase path name = .ok removed)
    (haccepted : Step.Accepted (fs, .erase path name)) (place : String) :
    Follows (fs, .erase path name) removed.state place := by
  have hmade : ∀ other, ¬ MakesFile place other (fs, .erase path name) := by
    simp [MakesFile]
  have hlisting : removed.state.listing place =
      if path = place then
        { fs.listing place with files := (fs.listing place).files.erase name }
      else fs.listing place := by
    obtain ⟨dir, file, hdir, -, rfl⟩ := erase_ok hremoved
    exact @listing_put_of_some _ _ _ _ (fun listing =>
      { listing with files := listing.files.erase name }) hdir (dir.listing_dropFile name) place
  constructor
  · refine change_dirs_of_files (by simp) (by simp) ?_
    rw [hlisting]
    split
    · rfl
    · rfl
  · rw [hlisting]
    by_cases hplace : path = place
    · subst hplace
      rw [if_pos rfl]
      exact .drop hmade (by simp [RemovesFile, haccepted, eq_comm])
    · rw [if_neg hplace]
      exact .none hmade (by simp [RemovesFile, hplace])

/-! ## All operations -/

theorem follows_perform (h : TreeShaped ValidName fs) (op : Operation) (path : String) :
    Follows (fs, op) (fs.perform op).state path := by
  cases hvalue : (fs.perform op).value with
  | error e =>
    rw [perform_eq_self_of_error hvalue]
    have hrefused : ¬ Step.Accepted (fs, op) := by
      rintro ⟨answer, hanswer⟩
      rw [hvalue] at hanswer
      cases hanswer
    exact ⟨.none (fun _ hmade => hrefused hmade.2) fun _ _ hremoved => hrefused hremoved.2,
      .none (fun _ hmade => hrefused hmade.2.1) fun _ _ hremoved => hrefused hremoved.2⟩
  | ok answer =>
    have haccepted : Step.Accepted (fs, op) := ⟨answer, hvalue⟩
    cases op with
    | makeDirectory parent name =>
      obtain ⟨made, hmade, hstate⟩ := settle_ok hvalue
      rw [perform, hstate]
      exact follows_makeDirectory h hmade haccepted path
    | removeDirectory target =>
      obtain ⟨removed, hremoved, hstate⟩ := settle_ok hvalue
      rw [perform, hstate]
      exact follows_removeDirectory h hremoved haccepted path
    | openFile dir name =>
      obtain ⟨opened, hopened, hstate⟩ := settle_ok hvalue
      rw [perform, hstate]
      exact follows_openFile hopened haccepted path
    | erase dir name =>
      obtain ⟨removed, hremoved, hstate⟩ := settle_ok hvalue
      rw [perform, hstate]
      exact follows_erase hremoved haccepted path
    | write dir name content =>
      obtain ⟨written, hwritten, hstate⟩ := settle_ok hvalue
      rw [perform, hstate]
      exact follows_write hwritten haccepted path
    | list | content | contains =>
      exact ⟨change_dirs_of_files (by simp) (by simp) rfl,
        .none (by simp [MakesFile]) (by simp [RemovesFile])⟩

/-! ## Whole runs -/

/-- The steps that make the startup tree. -/
def founding : List Step :=
  Run.steps perform bare (startupDirectories.map (.makeDirectory Path.root))

theorem state_founding :
    Run.state perform bare (startupDirectories.map (.makeDirectory Path.root)) = startup.state := by
  simp only [startup]
  exact state_makeDirectories bare Path.root startupDirectories

theorem listedByCreation_of_byCreation {history : List Step} {listing : Listing}
    (hdirs : Run.ByCreation (MakesDirectory path) (RemovesDirectory path) history listing.dirs)
    (hfiles : Run.ByCreation (MakesFile path) (RemovesFile path) history listing.files) :
    ListedByCreation history path listing := by
  constructor
  · exact fun names => ⟨fun hnames => hnames.unique hdirs, fun hnames => hnames ▸ hdirs⟩
  · exact fun names => ⟨fun hnames => hnames.unique hfiles, fun hnames => hnames ▸ hfiles⟩

/-- A run makes the history longer and keeps the listings in its order. -/
theorem listedByCreation_run {history : List Step} (h : TreeShaped ValidName fs)
    (hlisted : ListedByCreation history path (fs.listing path)) (ops : List Operation) :
    ListedByCreation (history ++ Run.steps perform fs ops) path
      ((Run.state perform fs ops).listing path) := by
  have hkept : ∀ fs op, TreeShaped ValidName fs → TreeShaped ValidName (fs.perform op).state :=
    fun _ op h => h.perform op
  have hdirs : ∀ fs op, TreeShaped ValidName fs →
      Run.Change (MakesDirectory path · (fs, op)) (RemovesDirectory path · (fs, op))
        (fs.listing path).dirs ((fs.perform op).state.listing path).dirs :=
    fun _ op h => (follows_perform h op path).dirs
  have hfiles : ∀ fs op, TreeShaped ValidName fs →
      Run.Change (MakesFile path · (fs, op)) (RemovesFile path · (fs, op))
        (fs.listing path).files ((fs.perform op).state.listing path).files :=
    fun _ op h => (follows_perform h op path).files
  exact listedByCreation_of_byCreation (.run hkept hdirs h ((hlisted.dirs _).2 rfl) ops)
    (.run hkept hfiles h ((hlisted.files _).2 rfl) ops)

theorem listedByCreation_bare (path : String) : ListedByCreation [] path (bare.listing path) := by
  rw [listing_bare]
  exact listedByCreation_of_byCreation .nil .nil

theorem listedByCreation_startup (path : String) :
    ListedByCreation founding path (startup.state.listing path) := by
  rw [← state_founding]
  exact listedByCreation_run TreeShaped.bare (listedByCreation_bare path)
    (startupDirectories.map (.makeDirectory Path.root))

/-- At the end of a run, from the bare root as from the startup tree, the listing of a directory
that is there holds the names of the subdirectories and files that were made in it and not removed
since they were made last, in the order in which they were. -/
theorem list_by_creation (ops : List Operation) :
    (∀ path, (Run.state perform bare ops).contains path = true →
      ∃ listing, (Run.state perform bare ops).list path = .ok listing ∧
        ListedByCreation (Run.steps perform bare ops) path listing) ∧
    (∀ path, (Run.state perform startup.state ops).contains path = true →
      ∃ listing, (Run.state perform startup.state ops).list path = .ok listing ∧
        ListedByCreation (founding ++ Run.steps perform startup.state ops) path listing) := by
  constructor
  · intro path hthere
    exact ⟨_, list_of_contains hthere,
      listedByCreation_run TreeShaped.bare (listedByCreation_bare path) ops⟩
  · intro path hthere
    exact ⟨_, list_of_contains hthere,
      listedByCreation_run TreeShaped.startup (listedByCreation_startup path) ops⟩

/-- A directory that was removed and made again, with subdirectories and files of which some were
too, and a file that is written twice. -/
theorem list_by_creation_rebuilt :
    let ops : List Operation :=
      [.makeDirectory "/home/" "a", .removeDirectory "/home/a/", .removeDirectory "/home/",
        .makeDirectory "/" "home", .makeDirectory "/home/" "a", .makeDirectory "/home/" "b",
        .removeDirectory "/home/a/", .makeDirectory "/home/" "a", .write "/home/" "f" "one",
        .openFile "/home/" "g", .write "/home/" "f" "two", .openFile "/home/" "h",
        .erase "/home/" "g", .openFile "/home/" "g"]
    let fs := Run.state perform startup.state ops
    fs.contains "/home/" = true ∧ fs.list "/home/" = .ok ⟨["b", "a"], ["f", "h", "g"]⟩ ∧
      ListedByCreation (founding ++ Run.steps perform startup.state ops) "/home/"
        ⟨["b", "a"], ["f", "h", "g"]⟩ := by
  intro ops fs
  have hthere : fs.contains "/home/" = true := by decide +kernel
  have hnames : (fs.list "/home/").toOption = some ⟨["b", "a"], ["f", "h", "g"]⟩ := by
    decide +kernel
  obtain ⟨listing, hlist, hlisted⟩ := (list_by_creation ops).2 "/home/" hthere
  obtain rfl : listing = ⟨["b", "a"], ["f", "h", "g"]⟩ := by
    rw [hlist] at hnames
    exact Option.some.inj hnames
  exact ⟨hthere, hlist, hlisted⟩

end MemShell.FileSystem
