import MemShell.Proofs.FileSystem.Files
import MemShell.Proofs.FileSystem.Operation

/-!
# The shape of a file system

`TreeShaped` says that the index and the lists of subdirectories hold one tree: the root is there,
every directory fits the path that it is kept under, and a child is there exactly if its parent
lists it. It is stronger than what `isConsistent` checks, because it also bounds the paths and the
listed names, so every operation preserves it (`TreeShaped.perform`), and a tree shaped file system
passes the check (`TreeShaped.isConsistent`). `treeShaped_run` puts the two together for every run.
-/

namespace MemShell

/-- What the directory kept at `path` has to be like, whatever the other directories are. Names of
directories satisfy `Name`. -/
structure Directory.FitsAt (Name : String → Prop) (path : String) (dir : Directory) : Prop where
  canonical : Path.IsCanonical Name path
  name_eq : path ≠ Path.root → dir.name = Path.lastName path
  listed : ∀ name ∈ dir.subdirectories, Name name
  nodup_subdirectories : dir.subdirectories.Nodup
  nodup_files : (dir.files.map (·.name)).Nodup

namespace Directory.FitsAt

variable {Name : String → Prop} {path name : String} {dir : Directory}

theorem empty (hpath : Path.IsCanonical Name path)
    (hname : path ≠ Path.root → name = Path.lastName path) :
    (Directory.empty name).FitsAt Name path :=
  ⟨hpath, hname, by simp [Directory.empty], List.nodup_nil, List.nodup_nil⟩

theorem addSubdirectory (h : dir.FitsAt Name path) (hname : Name name)
    (hfresh : name ∉ dir.subdirectories) : (dir.addSubdirectory name).FitsAt Name path := by
  refine ⟨h.canonical, h.name_eq, fun other hother => ?_, ?_, h.nodup_files⟩
  · rcases List.mem_append.1 hother with hother | hother
    · exact h.listed other hother
    · rw [List.mem_singleton.1 hother]
      exact hname
  · refine List.nodup_append.2 ⟨h.nodup_subdirectories, by simp, ?_⟩
    intro other hother same hsame heq
    rw [heq, List.mem_singleton.1 hsame] at hother
    exact hfresh hother

theorem dropSubdirectory (h : dir.FitsAt Name path) (name : String) :
    (dir.dropSubdirectory name).FitsAt Name path :=
  ⟨h.canonical, h.name_eq, fun other hother => h.listed other (List.mem_filter.1 hother).1,
    h.nodup_subdirectories.filter _, h.nodup_files⟩

/-- Only the names of the files matter. -/
theorem withFiles (h : dir.FitsAt Name path) {other : Directory} (hname : other.name = dir.name)
    (hlisted : other.subdirectories = dir.subdirectories)
    (hfiles : (other.files.map (·.name)).Nodup) : other.FitsAt Name path :=
  ⟨h.canonical, fun hne => hname.trans (h.name_eq hne), hlisted ▸ h.listed,
    hlisted ▸ h.nodup_subdirectories, hfiles⟩

/-- Below the root a directory is kept under its own name in some other place. -/
theorem eq_child (h : dir.FitsAt Name path) (hName : ∀ name, Name name → Path.IsSegment name)
    (hroot : path ≠ Path.root) :
    ∃ up, Path.IsCanonical Path.IsSegment up ∧ Name dir.name ∧ path = Path.child up dir.name := by
  obtain ⟨up, name, hup, hname, rfl⟩ := h.canonical.eq_root_or_child.resolve_left hroot
  have hup := hup.mono hName
  have hlast : dir.name = name := by
    rw [h.name_eq hroot, Path.lastName_child hup (hName name hname)]
  subst hlast
  exact ⟨up, hup, hname, rfl⟩

end Directory.FitsAt

namespace FileSystem

/-- A name that a directory can be made under. -/
def ValidName (name : String) : Prop := isValidName name = true

instance (name : String) : Decidable (ValidName name) := inferInstanceAs (Decidable (_ = true))

theorem ValidName.isName {name : String} (h : ValidName name) : Path.IsName name := by
  simp only [ValidName, isValidName, Bool.and_eq_true, Bool.not_eq_true', List.all_eq_true] at h
  obtain ⟨hne, hchars⟩ := h
  refine ⟨⟨?_, fun hslash => ?_⟩, ?_, ?_⟩
  · rintro rfl
    cases hne
  · exact absurd (hchars '/' hslash) (by decide)
  · rintro rfl
    exact absurd (hchars '.' (by decide)) (by decide)
  · rintro rfl
    exact absurd (hchars '.' (by decide)) (by decide)

theorem ValidName.isSegment {name : String} (h : ValidName name) : Path.IsSegment name :=
  h.isName.isSegment

/-- The directory at `path` is there and lists `name`. -/
def Lists (fs : FileSystem) (path name : String) : Prop :=
  ∃ dir, fs.directory? path = some dir ∧ name ∈ dir.subdirectories

theorem lists_iff {fs : FileSystem} {path name : String} {dir : Directory}
    (hdir : fs.directory? path = some dir) : fs.Lists path name ↔ name ∈ dir.subdirectories := by
  simp [Lists, hdir]

/-- What is checked of the root and of each directory by itself. -/
theorem isConsistent_iff {fs : FileSystem} : fs.isConsistent = true ↔
    fs.contains Path.root = true ∧ ∀ path dir, fs.directory? path = some dir →
      (path = Path.root ∨ dir.name = Path.lastName path ∧ fs.Lists (Path.parent path) dir.name) ∧
        (∀ name ∈ dir.subdirectories, fs.contains (Path.join path name) = true) ∧
        dir.subdirectories.Nodup ∧ (dir.files.map (·.name)).Nodup := by
  have hmem : ∀ path dir, (path, dir) ∈ fs.index.toList ↔ fs.directory? path = some dir :=
    fun path dir => Std.ExtTreeMap.mem_toList_iff_getElem?_eq_some
  have hlists : ∀ path dir, fs.isListed path dir = true ↔
      dir.name = Path.lastName path ∧ fs.Lists (Path.parent path) dir.name := by
    intro path dir
    simp [isListed, Lists, Option.any_eq_true]
  simp only [isConsistent, Bool.and_eq_true, List.all_eq_true, Prod.forall, hmem, Bool.or_eq_true,
    beq_iff_eq, hlists, decide_eq_true_eq, and_assoc]

/-- The index and the lists of subdirectories hold one tree, whose directories are called by names
that satisfy `Name`. -/
structure TreeShaped (Name : String → Prop) (fs : FileSystem) : Prop where
  root : fs.contains Path.root = true
  fits : ∀ {path dir}, fs.directory? path = some dir → dir.FitsAt Name path
  child : ∀ {path name}, Path.IsCanonical Path.IsSegment path → Path.IsSegment name →
    (fs.contains (Path.child path name) = true ↔ fs.Lists path name)

/-! ## What `put` does to the parts -/

variable {Name : String → Prop} {fs : FileSystem}

theorem lists_put {path other name : String} {dir : Directory} :
    (fs.put path dir).Lists other name ↔
      if path = other then name ∈ dir.subdirectories else fs.Lists other name := by
  rw [Lists, directory?_put]
  by_cases h : path = other
  · simp [h]
  · simp [h, Lists]

theorem fits_put {path : String} {dir : Directory}
    (h : ∀ {other there}, fs.directory? other = some there → there.FitsAt Name other)
    (hdir : dir.FitsAt Name path) {other : String} {there : Directory}
    (hthere : (fs.put path dir).directory? other = some there) : there.FitsAt Name other := by
  rw [directory?_put] at hthere
  split at hthere
  · next heq =>
    cases hthere
    exact heq ▸ hdir
  · exact h hthere

/-! ## What removing a directory does to them -/

theorem lists_removeDirectory {path : String} {dir : Directory} {removed : Outcome FileSystem Unit}
    (h : fs.removeDirectory path = .ok removed) (hdir : fs.directory? path = some dir)
    {other name : String} :
    removed.state.Lists other name ↔
      other ≠ path ∧ fs.Lists other name ∧ ¬ (other = Path.parent path ∧ name = dir.name) := by
  obtain ⟨-, dir', hdir', -, -, hstate⟩ := removeDirectory_ok h
  obtain rfl : dir = dir' := Option.some.inj (hdir.symm.trans hdir')
  rw [Lists, hstate]
  by_cases hself : other = path
  · simp [hself]
  · by_cases hparent : other = Path.parent path
    · cases hup : fs.directory? other with
      | none => simp [← hparent, hself, Lists, hup]
      | some up => simp [← hparent, hself, Lists, hup, Directory.dropSubdirectory]
    · simp [hself, hparent, Lists]

theorem fits_removeDirectory {path : String} {removed : Outcome FileSystem Unit}
    (hremoved : fs.removeDirectory path = .ok removed)
    (h : ∀ {other there}, fs.directory? other = some there → there.FitsAt Name other)
    {other : String} {there : Directory} (hthere : removed.state.directory? other = some there) :
    there.FitsAt Name other := by
  obtain ⟨-, dir, -, -, -, hstate⟩ := removeDirectory_ok hremoved
  rw [hstate] at hthere
  split at hthere
  · cases hthere
  · split at hthere
    · obtain ⟨old, hold, rfl⟩ := Option.map_eq_some_iff.1 hthere
      exact (h hold).dropSubdirectory dir.name
    · exact h hthere

namespace TreeShaped

theorem segment_of_directory? (h : TreeShaped ValidName fs) {path : String} {dir : Directory}
    (hdir : fs.directory? path = some dir) : Path.IsCanonical Path.IsSegment path :=
  (h.fits hdir).canonical.mono fun _ => ValidName.isSegment

/-- A path is free exactly if the directory above does not list its last name. -/
theorem directory?_child_eq_none_iff {path name : String} {dir : Directory} (h : TreeShaped Name fs)
    (hpath : Path.IsCanonical Path.IsSegment path) (hname : Path.IsSegment name)
    (hdir : fs.directory? path = some dir) :
    fs.directory? (Path.child path name) = none ↔ name ∉ dir.subdirectories := by
  rw [← contains_eq_false_iff, ← Bool.not_eq_true, h.child hpath hname, lists_iff hdir]

/-- A tree shaped file system passes the check of its consistency. -/
theorem isConsistent (hName : ∀ name, Name name → Path.IsName name) (h : TreeShaped Name fs) :
    fs.isConsistent = true := by
  have hSegment : ∀ name, Name name → Path.IsSegment name := fun name hname =>
    (hName name hname).isSegment
  refine isConsistent_iff.2 ⟨h.root, fun path dir hdir => ?_⟩
  have hfits := h.fits hdir
  have hpath : Path.IsCanonical Path.IsSegment path := hfits.canonical.mono hSegment
  refine ⟨?_, fun name hname => ?_, hfits.nodup_subdirectories, hfits.nodup_files⟩
  · by_cases hroot : path = Path.root
    · exact .inl hroot
    · obtain ⟨up, hup, hname, hchild⟩ := hfits.eq_child hSegment hroot
      have hsegment := hSegment dir.name hname
      have hthere : fs.contains (Path.child up dir.name) = true :=
        hchild ▸ contains_eq_true_iff.2 ⟨dir, hdir⟩
      rw [hchild, Path.lastName_child hup hsegment, Path.parent_child hup hsegment]
      exact .inr ⟨rfl, (h.child hup hsegment).1 hthere⟩
  · have hlisted := hfits.listed name hname
    rw [Path.join_eq_child hpath (hName name hlisted)]
    exact (h.child hpath (hSegment name hlisted)).2 ⟨dir, hdir, hname⟩

/-- The file system that holds only the root. -/
theorem bare : TreeShaped Name FileSystem.bare := by
  have honly : ∀ {path dir}, FileSystem.bare.directory? path = some dir →
      path = Path.root ∧ dir = .empty Path.root := by
    intro path dir hdir
    rw [directory?_bare] at hdir
    split at hdir
    · next hroot => exact ⟨hroot, (Option.some.inj hdir).symm⟩
    · cases hdir
  refine ⟨?_, fun hdir => ?_, fun hpath hname => ⟨fun hchild => ?_, ?_⟩⟩
  · exact contains_eq_true_iff.2 ⟨_, by rw [directory?_bare, if_pos rfl]⟩
  · obtain ⟨rfl, rfl⟩ := honly hdir
    exact .empty Path.isCanonical_root fun hne => absurd rfl hne
  · obtain ⟨dir, hdir⟩ := contains_eq_true_iff.1 hchild
    exact absurd (honly hdir).1 (Path.child_ne_root hpath hname)
  · rintro ⟨dir, hdir, hlisted⟩
    rw [(honly hdir).2] at hlisted
    cases hlisted

/-! ## What the operations preserve -/

theorem makeDirectory {parent name : String} {made : Outcome FileSystem String}
    (h : TreeShaped ValidName fs) (hmade : fs.makeDirectory parent name = .ok made) :
    TreeShaped ValidName made.state := by
  obtain ⟨hname, hfresh, above, habove, rfl⟩ := makeDirectory_ok hmade
  have hname : ValidName name := hname
  have hparent := h.segment_of_directory? habove
  rw [Path.join_eq_child hparent hname.isName] at hfresh ⊢
  have hunlisted : ∀ other, ¬ fs.Lists (Path.child parent name) other := by
    rintro other ⟨dir, hdir, -⟩
    rw [hfresh] at hdir
    cases hdir
  have hnew : name ∉ above.subdirectories :=
    (h.directory?_child_eq_none_iff hparent hname.isSegment habove).1 hfresh
  refine ⟨?_, ?_, fun {path other} hpath hother => ?_⟩
  · exact contains_put.2 (.inr (contains_put.2 (.inr h.root)))
  · refine fits_put (fits_put h.fits ?_) ((h.fits habove).addSubdirectory hname hnew)
    exact .empty ((h.fits habove).canonical.child hname) fun _ =>
      (Path.lastName_child hparent hname.isSegment).symm
  · have hthere : parent = Path.child path other → fs.Lists path other := fun heq =>
      (h.child hpath hother).1 (contains_eq_true_iff.2 ⟨above, heq ▸ habove⟩)
    rw [contains_put, contains_put, lists_put, lists_put, h.child hpath hother,
      Path.child_inj hparent hpath hname.isSegment hother]
    by_cases hself : parent = path
    · subst hself
      rw [if_pos rfl, lists_iff habove] at *
      simp only [Directory.addSubdirectory, List.mem_append, List.mem_singleton, true_and]
      constructor
      · rintro (heq | rfl | hlisted)
        · exact .inl (hthere heq)
        · exact .inr rfl
        · exact .inl hlisted
      · rintro (hlisted | rfl)
        · exact .inr (.inr hlisted)
        · exact .inr (.inl rfl)
    · rw [if_neg hself]
      by_cases hnext : Path.child parent name = path
      · subst hnext
        rw [if_pos rfl]
        constructor
        · rintro (heq | ⟨heq, -⟩ | hlisted)
          · exact absurd (hthere heq) (hunlisted other)
          · exact absurd heq hself
          · exact absurd hlisted (hunlisted other)
        · exact fun hlisted => by cases hlisted
      · rw [if_neg hnext]
        constructor
        · rintro (heq | ⟨heq, -⟩ | hlisted)
          · exact hthere heq
          · exact absurd heq hself
          · exact hlisted
        · exact fun hlisted => .inr (.inr hlisted)

theorem removeDirectory {path : String} {removed : Outcome FileSystem Unit}
    (h : TreeShaped ValidName fs) (hremoved : fs.removeDirectory path = .ok removed) :
    TreeShaped ValidName removed.state := by
  obtain ⟨hroot, dir, hdir, hempty, -, hstate⟩ := removeDirectory_ok hremoved
  obtain ⟨up, hup, hname, rfl⟩ := (h.fits hdir).eq_child (fun _ => ValidName.isSegment) hroot
  have hleaf : ∀ other, ¬ fs.Lists (Path.child up dir.name) other := by
    intro other hlisted
    rw [lists_iff hdir, (Directory.isEmpty_iff.1 hempty).2] at hlisted
    cases hlisted
  refine ⟨?_, ?_, fun {place other} hplace hother => ?_⟩
  · exact (contains_removeDirectory hremoved).2 ⟨Ne.symm hroot, h.root⟩
  · exact fits_removeDirectory hremoved h.fits
  · rw [contains_removeDirectory hremoved, lists_removeDirectory hremoved hdir,
      h.child hplace hother, Path.parent_child hup hname.isSegment, ne_eq,
      Path.child_inj hplace hup hother hname.isSegment]
    constructor
    · rintro ⟨hne, hlisted⟩
      exact ⟨fun heq => hleaf other (heq ▸ hlisted), hlisted, hne⟩
    · rintro ⟨-, hlisted, hne⟩
      exact ⟨hne, hlisted⟩

theorem withFiles {path : String} {dir other : Directory} (h : TreeShaped ValidName fs)
    (hdir : fs.directory? path = some dir) (hname : other.name = dir.name)
    (hlisted : other.subdirectories = dir.subdirectories)
    (hfiles : (other.files.map (·.name)).Nodup) : TreeShaped ValidName (fs.put path other) := by
  refine ⟨?_, ?_, fun {place name} hplace hsegment => ?_⟩
  · exact contains_put.2 (.inr h.root)
  · exact fits_put h.fits ((h.fits hdir).withFiles hname hlisted hfiles)
  · have hlists : (fs.put path other).Lists place name ↔ fs.Lists place name := by
      rw [lists_put]
      split
      · next heq =>
        rw [hlisted, ← heq, lists_iff hdir]
      · rfl
    rw [contains_put, hlists, h.child hplace hsegment]
    refine ⟨?_, .inr⟩
    rintro (heq | hlisted)
    · exact (h.child hplace hsegment).1 (contains_eq_true_iff.2 ⟨dir, heq ▸ hdir⟩)
    · exact hlisted

theorem openFile {path name : String} {opened : Outcome FileSystem File}
    (h : TreeShaped ValidName fs) (hopened : fs.openFile path name = .ok opened) :
    TreeShaped ValidName opened.state := by
  obtain ⟨dir, hdir, ⟨file, -, rfl⟩ | ⟨hfile, rfl⟩⟩ := openFile_ok hopened
  · exact h
  · exact h.withFiles hdir rfl rfl (Directory.nodup_addFile (h.fits hdir).nodup_files hfile)

theorem erase {path name : String} {removed : Outcome FileSystem Unit}
    (h : TreeShaped ValidName fs) (hremoved : fs.erase path name = .ok removed) :
    TreeShaped ValidName removed.state := by
  obtain ⟨dir, file, hdir, -, rfl⟩ := erase_ok hremoved
  exact h.withFiles hdir rfl rfl (Directory.nodup_dropFile name (h.fits hdir).nodup_files)

theorem write {path name content : String} {written : Outcome FileSystem Unit}
    (h : TreeShaped ValidName fs) (hwritten : fs.write path name content = .ok written) :
    TreeShaped ValidName written.state := by
  obtain ⟨dir, hdir, rfl⟩ := write_ok hwritten
  exact h.withFiles hdir rfl rfl (Directory.nodup_putFile name content (h.fits hdir).nodup_files)

theorem settle {α : Type} {answer : α → Answer} {result : Except FsError (Outcome FileSystem α)}
    (h : TreeShaped ValidName fs)
    (hok : ∀ done, result = .ok done → TreeShaped ValidName done.state) :
    TreeShaped ValidName (fs.settle answer result).state := by
  cases result with
  | ok done => exact hok done rfl
  | error => exact h

/-- Every operation, accepted or refused, keeps the shape. -/
theorem perform (h : TreeShaped ValidName fs) (op : Operation) :
    TreeShaped ValidName (fs.perform op).state := by
  cases op with
  | makeDirectory parent name => exact h.settle fun _ hmade => h.makeDirectory hmade
  | removeDirectory path => exact h.settle fun _ hremoved => h.removeDirectory hremoved
  | openFile path name => exact h.settle fun _ hopened => h.openFile hopened
  | erase path name => exact h.settle fun _ hremoved => h.erase hremoved
  | write path name content => exact h.settle fun _ hwritten => h.write hwritten
  | list | content | contains => exact h

theorem makeDirectories {parent : String} {names : List String} (h : TreeShaped ValidName fs) :
    TreeShaped ValidName (fs.makeDirectories parent names).state := by
  induction names generalizing fs with
  | nil => exact h
  | cons name names ih =>
    rw [FileSystem.makeDirectories]
    cases hmade : fs.makeDirectory parent name with
    | ok made => exact ih (h.makeDirectory hmade)
    | error e => exact ih h

/-- The tree that every session starts with. -/
theorem startup : TreeShaped ValidName FileSystem.startup.state :=
  TreeShaped.bare.makeDirectories

end TreeShaped

/-- After every run of operations, from the bare root as from the startup tree, the file system is
tree shaped and passes the check of its consistency. -/
theorem treeShaped_run (ops : List Operation) :
    (TreeShaped ValidName (Run.state perform bare ops) ∧
      (Run.state perform bare ops).isConsistent = true) ∧
    (TreeShaped ValidName (Run.state perform startup.state ops) ∧
      (Run.state perform startup.state ops).isConsistent = true) := by
  have hbare : TreeShaped ValidName (Run.state perform bare ops) :=
    Run.invariant (fun _ op h => h.perform op) TreeShaped.bare ops
  have hstartup : TreeShaped ValidName (Run.state perform startup.state ops) :=
    Run.invariant (fun _ op h => h.perform op) TreeShaped.startup ops
  exact ⟨⟨hbare, hbare.isConsistent fun _ => ValidName.isName⟩,
    hstartup, hstartup.isConsistent fun _ => ValidName.isName⟩

end FileSystem

end MemShell
