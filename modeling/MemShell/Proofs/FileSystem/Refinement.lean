import MemShell.Proofs.FileSystem.Tree
import MemShell.Proofs.FileSystem.TreeShaped

/-!
# A file system stands for a tree

`Represents fs t` says that the index of `fs` is the tree `t` laid flat: the same paths, and at each
the node's files and the names of its subdirectories. Every operation keeps the two in step and
gets the same answer or the same refusal from both (`perform_inStep`), so whole runs do
(`answers_eq_tree`).
-/

namespace MemShell

namespace Tree

variable {names : List String} {node : Tree}

theorem names_directoryAt :
    (directoryAt names node).files.map (·.name) = node.files.map (·.1) := by
  simp [directoryAt, Function.comp_def]

theorem file?_directoryAt (name : String) :
    (directoryAt names node).file? name =
      (node.files.lookup name).map fun content => ⟨name, content⟩ := by
  rw [Directory.file?, directoryAt]
  generalize node.files = files
  induction files with
  | nil => rfl
  | cons file files ih =>
    obtain ⟨here, content⟩ := file
    rw [List.map_cons, List.find?_cons, List.lookup_cons]
    by_cases hname : here = name
    · simp [hname]
    · rw [beq_false_of_ne hname, beq_false_of_ne (Ne.symm hname)]
      exact ih

theorem listing_directoryAt :
    (directoryAt names node).listing = ⟨node.dirs.map (·.1), node.files.map (·.1)⟩ := by
  rw [Directory.listing, names_directoryAt]
  rfl

theorem isEmpty_directoryAt :
    (directoryAt names node).isEmpty = true ↔ node.files = [] ∧ node.dirs = [] := by
  simp [Directory.isEmpty, directoryAt]

/-! ## Changes of one node -/

theorem addSubdirectory_directoryAt (name : String) :
    (directoryAt names node).addSubdirectory name = directoryAt names (node.addDirectory name) := by
  simp [Directory.addSubdirectory, directoryAt, addDirectory]

theorem dropSubdirectory_directoryAt (name : String) :
    (directoryAt names node).dropSubdirectory name =
      directoryAt names (node.dropDirectory name) := by
  simp [Directory.dropSubdirectory, directoryAt, dropDirectory, List.filter_map,
    Function.comp_def]

theorem addFile_directoryAt {name : String} (h : node.files.lookup name = none) :
    (directoryAt names node).addFile ⟨name, ""⟩ = directoryAt names (node.putFile name "") := by
  rw [Directory.addFile, putFile, if_neg (lookup_eq_none_iff.1 h)]
  simp [directoryAt]

theorem dropFile_directoryAt (name : String) (h : (node.files.map (·.1)).Nodup) :
    (directoryAt names node).dropFile name = directoryAt names (node.dropFile name) := by
  have hfiles : ((directoryAt names node).dropFile name).files =
      (directoryAt names (node.dropFile name)).files := by
    rw [Directory.dropFile_files name (names_directoryAt ▸ h)]
    simp [directoryAt, dropFile, List.filter_map, Function.comp_def]
  exact congrArg (fun files => { directoryAt names node with files }) hfiles

theorem putFile_directoryAt (name content : String) (h : (node.files.map (·.1)).Nodup) :
    (directoryAt names node).putFile name content =
      directoryAt names (node.putFile name content) := by
  rw [Directory.putFile, putFile, Directory.putContent_eq (names_directoryAt ▸ h),
    names_directoryAt]
  by_cases hname : name ∈ node.files.map (·.1)
  · rw [if_pos hname, if_pos hname]
    simp only [directoryAt, List.map_map, Directory.mk.injEq, true_and, and_true]
    refine List.map_congr_left fun file _ => ?_
    by_cases hfile : file.1 = name
    · simp [hfile]
    · simp [hfile]
  · rw [if_neg hname, if_neg hname]
    simp [directoryAt]

/-! ## The tree laid flat -/

theorem directory?_ofSegments (t : Tree) {names : List String}
    (hnames : ∀ name ∈ names, Path.IsSegment name) :
    t.directory? (Path.ofSegments names) = (t.node? names).map (directoryAt names) := by
  rw [directory?, find?, names?_eq_some_iff.2 ⟨hnames, rfl⟩, Option.bind_some, Option.map_map]
  rfl

theorem isCanonical_of_directory? {t : Tree} {path : String} {dir : Directory}
    (h : t.directory? path = some dir) : Path.IsCanonical Path.IsSegment path := by
  obtain ⟨⟨names, node⟩, hfind, -⟩ := Option.map_eq_some_iff.1 h
  obtain ⟨hnames, hpath, -⟩ := find?_eq_some_iff.1 hfind
  exact ⟨names, hnames, hpath⟩

theorem directory?_of_not_canonical {path : String} (h : ¬ Path.IsCanonical Path.IsSegment path)
    (t : Tree) : t.directory? path = none :=
  Option.eq_none_iff_forall_ne_some.2 fun _ hdir => h (isCanonical_of_directory? hdir)

end Tree

namespace FileSystem

/-- The index of the file system is the tree laid flat. -/
def Represents (fs : FileSystem) (t : Tree) : Prop := ∀ path, fs.directory? path = t.directory? path

variable {fs next : FileSystem} {t : Tree}

theorem directory?_put_ofSegments {names others : List String} {dir : Directory}
    (hnames : ∀ name ∈ names, Path.IsSegment name)
    (hothers : ∀ name ∈ others, Path.IsSegment name) :
    (fs.put (Path.ofSegments names) dir).directory? (Path.ofSegments others) =
      if names = others then some dir else fs.directory? (Path.ofSegments others) := by
  simp only [directory?_put, Path.ofSegments_inj hnames hothers]

/-- Canonical paths are all that has to be compared. -/
theorem represents_of_ofSegments
    (hcanonical : ∀ {path dir}, fs.directory? path = some dir →
      Path.IsCanonical Path.IsSegment path)
    (h : ∀ names, (∀ name ∈ names, Path.IsSegment name) →
      fs.directory? (Path.ofSegments names) = (t.node? names).map (Tree.directoryAt names)) :
    fs.Represents t := by
  intro path
  by_cases hpath : Path.IsCanonical Path.IsSegment path
  · obtain ⟨names, hnames, rfl⟩ := hpath
    rw [h names hnames, t.directory?_ofSegments hnames]
  · have hfs : fs.directory? path = none :=
      Option.eq_none_iff_forall_ne_some.2 fun dir hdir => hpath (hcanonical hdir)
    rw [hfs, t.directory?_of_not_canonical hpath]

theorem represents_bare : bare.Represents Tree.leaf := by
  refine represents_of_ofSegments (fun hdir => ?_) fun names hnames => ?_
  · exact (TreeShaped.bare.fits hdir).canonical
  · rw [directory?_bare]
    cases names with
    | nil => rfl
    | cons name names =>
      have hne : Path.ofSegments (name :: names) ≠ Path.root := fun heq => by
        have hsegments := congrArg Path.segments heq
        rw [Path.segments_ofSegments hnames, Path.segments_root] at hsegments
        cases hsegments
      rw [if_neg hne]
      rfl

namespace Represents

theorem directory?_ofSegments (h : fs.Represents t) {names : List String}
    (hnames : ∀ name ∈ names, Path.IsSegment name) :
    fs.directory? (Path.ofSegments names) = (t.node? names).map (Tree.directoryAt names) := by
  rw [h, t.directory?_ofSegments hnames]

theorem directory?_of_find? (h : fs.Represents t) {path : String} {names : List String}
    {node : Tree} (hfind : t.find? path = some (names, node)) :
    fs.directory? path = some (node.directoryAt names) := by
  rw [h, Tree.directory?, hfind]
  rfl

theorem directory?_of_find?_none (h : fs.Represents t) {path : String}
    (hfind : t.find? path = none) : fs.directory? path = none := by
  rw [h, Tree.directory?, hfind]
  rfl

/-- A change of one node is followed by a change of what is kept under its path and below. -/
theorem update (h : fs.Represents t) {names : List String} {node : Tree} {change : Tree → Tree}
    (hnode : t.node? names = some node)
    (hcanonical : ∀ {path dir}, next.directory? path = some dir →
      Path.IsCanonical Path.IsSegment path)
    (hself : next.directory? (Path.ofSegments names) = some ((change node).directoryAt names))
    (hbelow : ∀ name more, (∀ other ∈ names ++ name :: more, Path.IsSegment other) →
      next.directory? (Path.ofSegments (names ++ name :: more)) =
        ((change node).node? (name :: more)).map (Tree.directoryAt (names ++ name :: more)))
    (helse : ∀ others, (∀ name ∈ others, Path.IsSegment name) → ¬ names <+: others →
      next.directory? (Path.ofSegments others) = fs.directory? (Path.ofSegments others)) :
    next.Represents (t.update change names) := by
  refine represents_of_ofSegments hcanonical fun others hothers => ?_
  by_cases hprefix : names <+: others
  · obtain ⟨more, rfl⟩ := hprefix
    rw [Tree.node?_update_append, hnode, Option.bind_some]
    cases more with
    | nil =>
      rw [List.append_nil, hself]
      rfl
    | cons name more => exact hbelow name more hothers
  · rw [Tree.node?_update_of_not_prefix change hprefix, helse others hothers hprefix,
      h.directory?_ofSegments hothers]

/-- Files of one node can change without any look at what is below it. -/
theorem updateFiles (h : fs.Represents t) {path : String} {names : List String} {node : Tree}
    {change : Tree → Tree} (hfind : t.find? path = some (names, node))
    (hdirs : (change node).dirs = node.dirs)
    (hshape : TreeShaped ValidName (fs.put path ((change node).directoryAt names))) :
    (fs.put path ((change node).directoryAt names)).Represents (t.update change names) := by
  obtain ⟨hnames, rfl, hnode⟩ := Tree.find?_eq_some_iff.1 hfind
  refine h.update hnode hshape.segment_of_directory? ?_ (fun name more hmore => ?_)
    fun others hothers hprefix => ?_
  · rw [directory?_put, if_pos rfl]
  · rw [directory?_put_ofSegments hnames hmore, if_neg (by simp), h.directory?_ofSegments hmore,
      Tree.node?_append, hnode, Option.bind_some, Tree.node?, Tree.node?, hdirs]
  · rw [directory?_put_ofSegments hnames hothers, if_neg]
    exact fun heq => hprefix (heq ▸ List.prefix_refl _)

/-- A new directory shows in the list of its parent and at its own path. -/
theorem addDirectory (h : fs.Represents t) {names : List String} {node : Tree} {name : String}
    (hnode : t.node? names = some node) (hnames : ∀ other ∈ names ++ [name], Path.IsSegment other)
    (hfresh : name ∉ node.dirs.map (·.1))
    (hnext : next = (fs.put (Path.ofSegments (names ++ [name])) (.empty name)).put
      (Path.ofSegments names) ((node.addDirectory name).directoryAt names))
    (hshape : TreeShaped ValidName next) :
    next.Represents (t.update (Tree.addDirectory name) names) := by
  have hparent : ∀ other ∈ names, Path.IsSegment other := fun other hother =>
    hnames other (List.mem_append_left _ hother)
  refine h.update hnode hshape.segment_of_directory? ?_ (fun other more hmore => ?_)
    fun others hothers hprefix => ?_
  · rw [hnext, directory?_put, if_pos rfl]
  · rw [hnext, directory?_put_ofSegments hparent hmore, if_neg (by simp),
      directory?_put_ofSegments hnames hmore, h.directory?_ofSegments hmore, Tree.node?_append,
      hnode, Option.bind_some]
    by_cases hother : other = name
    · subst hother
      rw [Tree.node?_addDirectory_self hfresh, Tree.node?_of_not_mem hfresh]
      cases more with
      | nil =>
        rw [if_pos rfl]
        simp [Tree.node?, Tree.directoryAt, Tree.leaf, Directory.empty]
      | cons => rw [if_neg (by simp), Tree.node?_leaf_cons]
    · rw [if_neg (by simp [Ne.symm hother]), Tree.node?_addDirectory_of_ne hother]
  · rw [hnext, directory?_put_ofSegments hparent hothers, if_neg,
      directory?_put_ofSegments hnames hothers, if_neg]
    · exact fun heq => hprefix (heq ▸ List.prefix_append _ _)
    · exact fun heq => hprefix (heq ▸ List.prefix_refl _)

/-- A directory without subdirectories goes from the list of its parent and from its own path. -/
theorem dropDirectory (h : fs.Represents t) {names : List String} {above node : Tree}
    {name : String} (hnames : ∀ other ∈ names ++ [name], Path.IsSegment other)
    (habove : t.node? names = some above) (hnode : t.node? (names ++ [name]) = some node)
    (hdirs : node.dirs = [])
    (hnext : ∀ other, next.directory? other =
      if other = Path.ofSegments (names ++ [name]) then none
      else if other = Path.ofSegments names then
        (fs.directory? other).map (·.dropSubdirectory name)
      else fs.directory? other)
    (hshape : TreeShaped ValidName next) :
    next.Represents (t.update (Tree.dropDirectory name) names) := by
  have hparent : ∀ other ∈ names, Path.IsSegment other := fun other hother =>
    hnames other (List.mem_append_left _ hother)
  have hplaces : ∀ others, (∀ other ∈ others, Path.IsSegment other) →
      next.directory? (Path.ofSegments others) =
        if others = names ++ [name] then none
        else if others = names then
          (fs.directory? (Path.ofSegments names)).map (·.dropSubdirectory name)
        else fs.directory? (Path.ofSegments others) := by
    intro others hothers
    simp only [hnext, Path.ofSegments_inj hothers hnames, Path.ofSegments_inj hothers hparent]
    by_cases hself : others = names
    · rw [hself]
    · simp only [hself, ↓reduceIte]
  refine h.update habove hshape.segment_of_directory? ?_ (fun other more hmore => ?_)
    fun others hothers hprefix => ?_
  · rw [hplaces names hparent, if_neg (by simp), if_pos rfl, h.directory?_ofSegments hparent,
      habove]
    exact congrArg some (Tree.dropSubdirectory_directoryAt name)
  · rw [hplaces _ hmore]
    by_cases hother : other = name
    · subst hother
      rw [Tree.node?_dropDirectory_self]
      cases more with
      | nil => rw [if_pos rfl, Option.map_none]
      | cons next more =>
        have hgone : t.node? (names ++ other :: next :: more) = none := by
          rw [List.append_cons, Tree.node?_append, hnode, Option.bind_some,
            Tree.node?_of_not_mem (by simp [hdirs])]
        rw [if_neg (by simp), if_neg (by simp), h.directory?_ofSegments hmore, hgone]
    · rw [if_neg (by simp [hother]), if_neg (by simp), h.directory?_ofSegments hmore,
        Tree.node?_append, habove, Option.bind_some, Tree.node?_dropDirectory_of_ne hother]
  · rw [hplaces others hothers, if_neg, if_neg]
    · exact fun heq => hprefix (heq ▸ List.prefix_refl _)
    · exact fun heq => hprefix (heq ▸ List.prefix_append _ _)

end Represents

/-! ## One operation -/

/-- The same answer, and states that stay in step. -/
def InStep (done : Outcome FileSystem (Except FsError Answer))
    (other : Outcome Tree (Except FsError Answer)) : Prop :=
  done.value = other.value ∧ done.state.Represents other.state

theorem makeDirectory_inStep (hshape : TreeShaped ValidName fs) (h : fs.Represents t)
    (parent name : String) :
    InStep (fs.perform (.makeDirectory parent name)) (t.perform (.makeDirectory parent name)) := by
  rw [perform, Tree.perform, Tree.carryOut]
  by_cases hname : isValidName name = false
  · rw [makeDirectory, if_pos hname, if_pos hname]
    exact ⟨rfl, h⟩
  rw [if_neg hname, Tree.at?]
  cases hfind : t.find? parent with
  | none =>
    have hmissing := contains_eq_false_iff.2 (h.directory?_of_find?_none hfind)
    rw [makeDirectory, if_neg hname, if_pos hmissing]
    exact ⟨rfl, h⟩
  | some found =>
    obtain ⟨names, node⟩ := found
    have hvalid : ValidName name := Bool.of_not_eq_false hname
    obtain ⟨hnames, rfl, hnode⟩ := Tree.find?_eq_some_iff.1 hfind
    have hdir := h.directory?_of_find? hfind
    have hparent := hshape.segment_of_directory? hdir
    have hjoin : Path.join (Path.ofSegments names) name = Path.ofSegments (names ++ [name]) := by
      rw [Path.join_eq_child hparent hvalid.isName, Path.ofSegments_append_singleton]
    have htaken : fs.contains (Path.ofSegments (names ++ [name])) = true ↔
        name ∈ node.dirs.map (·.1) := by
      rw [Path.ofSegments_append_singleton, hshape.child hparent hvalid.isSegment, lists_iff hdir]
      rfl
    dsimp only
    by_cases hlisted : name ∈ node.dirs.map (·.1)
    · rw [if_pos hlisted, makeDirectory, if_neg hname,
        if_neg (by rw [contains_eq_true_iff.2 ⟨_, hdir⟩]; decide), hjoin,
        if_pos (htaken.2 hlisted)]
      exact ⟨rfl, h⟩
    · have hfresh : fs.directory? (Path.join (Path.ofSegments names) name) = none := by
        rw [hjoin, ← contains_eq_false_iff, Bool.eq_false_iff]
        exact fun hthere => hlisted (htaken.1 hthere)
      have hmade := makeDirectory_of_fresh hvalid hdir hfresh
      have hmadeShape := hshape.makeDirectory hmade
      rw [if_neg hlisted, hmade]
      rw [hjoin] at hmadeShape ⊢
      refine ⟨rfl, h.addDirectory hnode ?_ hlisted ?_ hmadeShape⟩
      · intro other hother
        rcases List.mem_append.1 hother with hother | hother
        · exact hnames other hother
        · exact List.mem_singleton.1 hother ▸ hvalid.isSegment
      · rw [← Tree.addSubdirectory_directoryAt]
        rfl

theorem removeDirectory_inStep (hshape : TreeShaped ValidName fs) (h : fs.Represents t)
    (path : String) :
    InStep (fs.perform (.removeDirectory path)) (t.perform (.removeDirectory path)) := by
  rw [perform, Tree.perform, Tree.carryOut]
  by_cases hroot : path = Path.root
  · rw [removeDirectory, if_pos hroot, if_pos hroot, hroot]
    exact ⟨rfl, h⟩
  rw [if_neg hroot, Tree.at?]
  cases hfind : t.find? path with
  | none =>
    rw [removeDirectory, if_neg hroot, directory_of_none (h.directory?_of_find?_none hfind)]
    exact ⟨rfl, h⟩
  | some found =>
    obtain ⟨names, node⟩ := found
    have hdir := h.directory?_of_find? hfind
    obtain ⟨hnames, rfl, hnode⟩ := Tree.find?_eq_some_iff.1 hfind
    dsimp only
    by_cases hempty : node.files = [] ∧ node.dirs = []
    · have hleaf : (node.directoryAt names).isEmpty = true := Tree.isEmpty_directoryAt.2 hempty
      obtain ⟨removed, hremoved⟩ := removeDirectory_of_isEmpty hroot hdir hleaf
      have hremovedShape := hshape.removeDirectory hremoved
      obtain ⟨-, dir, hdir', -, -, hnext⟩ := removeDirectory_ok hremoved
      obtain rfl : node.directoryAt names = dir := Option.some.inj (hdir.symm.trans hdir')
      rw [if_pos hempty, hremoved]
      refine ⟨rfl, ?_⟩
      rcases List.eq_nil_or_concat names with rfl | ⟨init, last, rfl⟩
      · exact absurd Path.ofSegments_nil hroot
      rw [List.concat_eq_append] at *
      obtain ⟨above, habove, -⟩ : ∃ above, t.node? init = some above ∧
          above.node? [last] = some node := by
        rwa [Tree.node?_append, Option.bind_eq_some_iff] at hnode
      have hlast : (init ++ [last]).getLastD "" = last := by simp
      have hname : (node.directoryAt (init ++ [last])).name = last := by simp [Tree.directoryAt]
      have hup : Path.parent (Path.ofSegments (init ++ [last])) = Path.ofSegments init := by
        rw [Path.parent, Path.segments_ofSegments hnames, List.dropLast_concat]
      rw [hup, hname] at hnext
      rw [hlast, List.dropLast_concat]
      exact h.dropDirectory hnames habove hnode hempty.2 hnext hremovedShape
    · have hleaf : (node.directoryAt names).isEmpty = false := by
        rw [Bool.eq_false_iff]
        exact fun hleaf => hempty (Tree.isEmpty_directoryAt.1 hleaf)
      rw [if_neg hempty, removeDirectory, if_neg hroot, directory_of_some hdir]
      dsimp only
      rw [if_pos hleaf]
      exact ⟨rfl, h⟩

theorem list_inStep (h : fs.Represents t) (path : String) :
    InStep (fs.perform (.list path)) (t.perform (.list path)) := by
  rw [perform, Tree.perform, Tree.carryOut, Tree.at?, list]
  cases hfind : t.find? path with
  | none =>
    rw [directory_of_none (h.directory?_of_find?_none hfind)]
    exact ⟨rfl, h⟩
  | some found =>
    rw [directory_of_some (h.directory?_of_find? hfind), Except.map, Tree.listing_directoryAt]
    exact ⟨rfl, h⟩

theorem openFile_inStep (hshape : TreeShaped ValidName fs) (h : fs.Represents t)
    (path name : String) :
    InStep (fs.perform (.openFile path name)) (t.perform (.openFile path name)) := by
  rw [perform, Tree.perform, Tree.carryOut, Tree.at?]
  cases hfind : t.find? path with
  | none =>
    rw [openFile, directory_of_none (h.directory?_of_find?_none hfind)]
    exact ⟨rfl, h⟩
  | some found =>
    obtain ⟨names, node⟩ := found
    have hdir := h.directory?_of_find? hfind
    have hfile := @Tree.file?_directoryAt names node name
    cases hlookup : node.files.lookup name with
    | some content =>
      rw [hlookup, Option.map_some] at hfile
      have hopened : fs.openFile path name = .ok ⟨⟨name, content⟩, fs, []⟩ := by
        simp only [openFile, directory_of_some hdir, hfile]
      simp only [hopened, hlookup]
      exact ⟨rfl, h⟩
    | none =>
      rw [hlookup, Option.map_none] at hfile
      have hopened : fs.openFile path name = .ok ⟨⟨name, ""⟩,
          fs.put path ((node.putFile name "").directoryAt names), [.fileCreated path name]⟩ := by
        simp only [openFile, directory_of_some hdir, hfile, Tree.addFile_directoryAt hlookup]
      simp only [hopened, hlookup]
      exact ⟨rfl, h.updateFiles hfind (Tree.dirs_putFile name "" node) (hshape.openFile hopened)⟩

theorem erase_inStep (hshape : TreeShaped ValidName fs) (h : fs.Represents t)
    (path name : String) :
    InStep (fs.perform (.erase path name)) (t.perform (.erase path name)) := by
  rw [perform, Tree.perform, Tree.carryOut, Tree.at?]
  cases hfind : t.find? path with
  | none =>
    rw [erase, directory_of_none (h.directory?_of_find?_none hfind)]
    exact ⟨rfl, h⟩
  | some found =>
    obtain ⟨names, node⟩ := found
    have hdir := h.directory?_of_find? hfind
    have hnodup := Tree.names_directoryAt ▸ (hshape.fits hdir).nodup_files
    have hfile := @Tree.file?_directoryAt names node name
    by_cases hname : name ∈ node.files.map (·.1)
    · cases hlookup : node.files.lookup name with
      | none => exact absurd hname (Tree.lookup_eq_none_iff.1 hlookup)
      | some content =>
        rw [hlookup, Option.map_some] at hfile
        have hremoved : fs.erase path name = .ok ⟨(),
            fs.put path ((node.dropFile name).directoryAt names), [.fileRemoved path name]⟩ := by
          simp only [erase, directory_of_some hdir, hfile, Tree.dropFile_directoryAt name hnodup]
        simp only [hremoved, hname, ↓reduceIte]
        exact ⟨rfl, h.updateFiles hfind rfl (hshape.erase hremoved)⟩
    · rw [Tree.lookup_eq_none_iff.2 hname, Option.map_none] at hfile
      simp only [erase, directory_of_some hdir, hfile, hname, ↓reduceIte]
      exact ⟨rfl, h⟩

theorem content_inStep (h : fs.Represents t) (path name : String) :
    InStep (fs.perform (.content path name)) (t.perform (.content path name)) := by
  rw [perform, Tree.perform, Tree.carryOut, Tree.at?, content]
  cases hfind : t.find? path with
  | none =>
    rw [directory_of_none (h.directory?_of_find?_none hfind)]
    exact ⟨rfl, h⟩
  | some found =>
    obtain ⟨names, node⟩ := found
    simp only [directory_of_some (h.directory?_of_find? hfind), Tree.file?_directoryAt]
    cases node.files.lookup name with
    | some content => exact ⟨rfl, h⟩
    | none => exact ⟨rfl, h⟩

theorem write_inStep (hshape : TreeShaped ValidName fs) (h : fs.Represents t)
    (path name content : String) :
    InStep (fs.perform (.write path name content)) (t.perform (.write path name content)) := by
  rw [perform, Tree.perform, Tree.carryOut, Tree.at?]
  cases hfind : t.find? path with
  | none =>
    rw [write, directory_of_none (h.directory?_of_find?_none hfind)]
    exact ⟨rfl, h⟩
  | some found =>
    obtain ⟨names, node⟩ := found
    have hdir := h.directory?_of_find? hfind
    have hnodup := Tree.names_directoryAt ▸ (hshape.fits hdir).nodup_files
    have hwritten : fs.write path name content = .ok ⟨(),
        fs.put path ((node.putFile name content).directoryAt names),
        [.fileWritten path name content.utf8ByteSize]⟩ := by
      simp only [write, directory_of_some hdir, Tree.putFile_directoryAt name content hnodup]
    rw [hwritten]
    exact ⟨rfl, h.updateFiles hfind (Tree.dirs_putFile name content node) (hshape.write hwritten)⟩

theorem contains_inStep (h : fs.Represents t) (path : String) :
    InStep (fs.perform (.contains path)) (t.perform (.contains path)) := by
  refine ⟨?_, h⟩
  simp only [perform, Tree.perform, Tree.carryOut, contains, h path, Tree.directory?,
    Option.isSome_map]

/-- One operation gets the same answer from both and keeps them in step. -/
theorem perform_inStep (hshape : TreeShaped ValidName fs) (h : fs.Represents t) (op : Operation) :
    InStep (fs.perform op) (t.perform op) := by
  cases op with
  | makeDirectory parent name => exact makeDirectory_inStep hshape h parent name
  | removeDirectory path => exact removeDirectory_inStep hshape h path
  | list path => exact list_inStep h path
  | openFile path name => exact openFile_inStep hshape h path name
  | erase path name => exact erase_inStep hshape h path name
  | content path name => exact content_inStep h path name
  | write path name content => exact write_inStep hshape h path name content
  | contains path => exact contains_inStep h path

/-! ## Runs -/

/-- From the bare root every run of operations gets the answers that the tree gives, refusals with
their causes included, and ends at the tree laid flat; a refused operation changes nothing. -/
theorem answers_eq_tree (ops : List Operation) :
    Run.answers perform bare ops = Run.answers Tree.perform Tree.leaf ops ∧
      (Run.state perform bare ops).Represents (Run.state Tree.perform Tree.leaf ops) ∧
      ∀ (op : Operation) (e : FsError),
        ((Run.state perform bare ops).perform op).value = .error e →
          ((Run.state perform bare ops).perform op).state = Run.state perform bare ops := by
  have hstep : ∀ (fs : FileSystem) (t : Tree) (op : Operation),
      TreeShaped ValidName fs ∧ fs.Represents t →
      (fs.perform op).value = (t.perform op).value ∧
        TreeShaped ValidName (fs.perform op).state ∧
        (fs.perform op).state.Represents (t.perform op).state := by
    rintro fs t op ⟨hshape, h⟩
    obtain ⟨hvalue, hnext⟩ := perform_inStep hshape h op
    exact ⟨hvalue, hshape.perform op, hnext⟩
  obtain ⟨hanswers, -, hend⟩ :=
    Run.simulation hstep ⟨TreeShaped.bare, represents_bare⟩ ops
  exact ⟨hanswers, hend, fun _ _ herror => perform_eq_self_of_error herror⟩

end FileSystem

end MemShell
