import Mathlib.Data.Finset.Dedup
import Mathlib.Data.Finset.Order
import Mathlib.Data.List.Induction
import MemShell.Proofs.FileSystem.Refinement

/-!
# What the check of consistency decides

`isConsistent` looks at one directory at a time, together with its parent and its children. On an
index whose paths are canonical that is enough: it passes exactly if there is one tree that the
index is the flat form of (`isConsistent_iff_exists_tree`). In between stands `TreeShaped`. The
check gives it directory by directory (`treeShaped_of_isConsistent`); from it the tree is read off
the index from the root on, down to a depth that no path exceeds (`node?_treeFrom`), and nothing is
left over, since with a directory all those above it are there (`TreeShaped.contains_of_append`).
-/

namespace MemShell

namespace Tree

/-- No two subdirectories of a node have one name, and no two files, from this node on downwards. -/
inductive Unique : Tree → Prop
  | mk {t : Tree} (dirs : (t.dirs.map (·.1)).Nodup) (files : (t.files.map (·.1)).Nodup)
      (below : ∀ dir ∈ t.dirs, Unique dir.2) : Unique t

theorem Unique.node? {t node : Tree} (h : t.Unique) {names : List String}
    (hnode : t.node? names = some node) : node.Unique := by
  induction names generalizing t with
  | nil =>
    cases hnode
    exact h
  | cons name names ih =>
    obtain ⟨child, hchild, hnode⟩ := Option.bind_eq_some_iff.1 hnode
    obtain ⟨before, behind, hdirs, -⟩ := List.lookup_eq_some_iff.1 hchild
    obtain ⟨-, -, hbelow⟩ := h
    exact ih (hbelow (name, child) (by simp [hdirs])) hnode

/-- A node is at the names exactly if the node above it lists the last of them. -/
theorem isSome_node?_append_singleton {t above : Tree} {names : List String} {name : String}
    (habove : t.node? names = some above) :
    (t.node? (names ++ [name])).isSome = true ↔ name ∈ above.dirs.map (·.1) := by
  have hchild : above.node? [name] = above.dirs.lookup name := by
    rw [node?]
    exact Option.bind_fun_some _
  rw [node?_append, habove, Option.bind_some, hchild, Option.isSome_iff_ne_none, ne_eq,
    lookup_eq_none_iff, not_not]

end Tree

namespace FileSystem

/-- Paths in the index are canonical, and all names that directories go by or are listed under can
be walked by. Names of files are free. -/
structure WellNamed (fs : FileSystem) : Prop where
  canonical : ∀ {path dir}, fs.directory? path = some dir → Path.IsCanonical Path.IsName path
  listed : ∀ {path dir}, fs.directory? path = some dir → ∀ name ∈ dir.subdirectories,
    Path.IsName name

theorem TreeShaped.wellNamed {fs : FileSystem} (h : TreeShaped Path.IsName fs) : fs.WellNamed :=
  ⟨fun hdir => (h.fits hdir).canonical, fun hdir => (h.fits hdir).listed⟩

theorem WellNamed.put {fs : FileSystem} (h : fs.WellNamed) {path : String} {dir : Directory}
    (hpath : Path.IsCanonical Path.IsName path)
    (hlisted : ∀ name ∈ dir.subdirectories, Path.IsName name) : (fs.put path dir).WellNamed := by
  constructor
  · intro other there hthere
    rw [directory?_put] at hthere
    split at hthere
    · next heq => exact heq ▸ hpath
    · exact h.canonical hthere
  · intro other there hthere
    rw [directory?_put] at hthere
    split at hthere
    · cases hthere
      exact hlisted
    · exact h.listed hthere

/-- The directory at `path` as a tree laid flat has it: there the root is called by its path. -/
def laidFlat (path : String) (dir : Directory) : Directory :=
  if path = Path.root then { dir with name := Path.root } else dir

/-- The index is the tree laid flat, whatever the root is called. -/
def Flattens (fs : FileSystem) (t : Tree) : Prop :=
  ∀ path, (fs.directory? path).map (laidFlat path) = t.directory? path

variable {fs : FileSystem} {t : Tree}

/-! ## From the check to the shape -/

theorem treeShaped_of_isConsistent (hnamed : fs.WellNamed) (h : fs.isConsistent = true) :
    TreeShaped Path.IsName fs := by
  obtain ⟨hroot, hchecked⟩ := isConsistent_iff.1 h
  refine ⟨hroot, fun {path dir} hdir => ?_, fun {path name} hpath hname => ⟨fun hthere => ?_, ?_⟩⟩
  · obtain ⟨hplace, -, hdirs, hfiles⟩ := hchecked path dir hdir
    exact ⟨hnamed.canonical hdir, fun hne => (hplace.resolve_left hne).1, hnamed.listed hdir, hdirs,
      hfiles⟩
  · obtain ⟨dir, hdir⟩ := contains_eq_true_iff.1 hthere
    obtain ⟨hlast, hlists⟩ :=
      (hchecked _ dir hdir).1.resolve_left (Path.child_ne_root hpath hname)
    rwa [hlast, Path.parent_child hpath hname, Path.lastName_child hpath hname] at hlists
  · rintro ⟨dir, hdir, hlisted⟩
    have hchild := (hchecked path dir hdir).2.1 name hlisted
    rwa [Path.join_eq_child hpath (hnamed.listed hdir name hlisted)] at hchild

/-! ## From the shape to a tree -/

/-- The tree below the directory at the names, down to the given depth. -/
def treeFrom (fs : FileSystem) : Nat → List String → Tree
  | 0, _ => .leaf
  | depth + 1, names =>
    match fs.directory? (Path.ofSegments names) with
    | none => .leaf
    | some dir =>
      ⟨dir.files.map fun file => (file.name, file.content),
        dir.subdirectories.map fun name => (name, fs.treeFrom depth (names ++ [name]))⟩

theorem treeFrom_of_some {names : List String} {dir : Directory}
    (hdir : fs.directory? (Path.ofSegments names) = some dir) (depth : Nat) :
    fs.treeFrom (depth + 1) names =
      ⟨dir.files.map fun file => (file.name, file.content),
        dir.subdirectories.map fun name => (name, fs.treeFrom depth (names ++ [name]))⟩ := by
  rw [treeFrom, hdir]

theorem unique_leaf : Tree.leaf.Unique := ⟨List.nodup_nil, List.nodup_nil, by simp [Tree.leaf]⟩

theorem TreeShaped.unique_treeFrom (h : TreeShaped Path.IsName fs) (depth : Nat)
    (names : List String) : (fs.treeFrom depth names).Unique := by
  induction depth generalizing names with
  | zero => exact unique_leaf
  | succ depth ih =>
    cases hdir : fs.directory? (Path.ofSegments names) with
    | none =>
      rw [treeFrom, hdir]
      exact unique_leaf
    | some dir =>
      rw [treeFrom_of_some hdir]
      refine ⟨?_, ?_, ?_⟩
      · simpa [Function.comp_def] using (h.fits hdir).nodup_subdirectories
      · simpa [Function.comp_def] using (h.fits hdir).nodup_files
      · simp only [List.forall_mem_map]
        exact fun name _ => ih (names ++ [name])

theorem lookup_treeFrom {names : List String} {dir : Directory} (depth : Nat) (name : String) :
    (dir.subdirectories.map fun name => (name, fs.treeFrom depth (names ++ [name]))).lookup name =
      if name ∈ dir.subdirectories then some (fs.treeFrom depth (names ++ [name])) else none := by
  induction dir.subdirectories with
  | nil => rfl
  | cons other others ih =>
    rw [List.map_cons, List.lookup_cons]
    by_cases hname : name = other
    · simp [hname]
    · simp [hname, ih, beq_false_of_ne hname]

/-- Above a directory there are directories up to the root. -/
theorem TreeShaped.contains_of_append (h : TreeShaped Path.IsName fs) {names more : List String}
    (hnames : ∀ name ∈ names ++ more, Path.IsSegment name)
    (hthere : fs.contains (Path.ofSegments (names ++ more)) = true) :
    fs.contains (Path.ofSegments names) = true := by
  induction more using List.reverseRecOn with
  | nil => rwa [List.append_nil] at hthere
  | append_singleton more last ih =>
    rw [← List.append_assoc] at hnames hthere
    obtain ⟨hinit, hlast⟩ := List.forall_mem_append.1 hnames
    rw [Path.ofSegments_append_singleton,
      h.child ⟨_, hinit, rfl⟩ (hlast last (List.mem_singleton_self last))] at hthere
    obtain ⟨dir, hdir, -⟩ := hthere
    exact ih hinit (contains_eq_true_iff.2 ⟨dir, hdir⟩)

/-- No path in the index goes through as many names as there are in the depth. -/
theorem exists_depth (fs : FileSystem) :
    ∃ depth, ∀ path, fs.contains path = true → (Path.segments path).length < depth := by
  obtain ⟨most, hmost⟩ :=
    Finset.exists_le ((fs.index.toList.map fun entry => (Path.segments entry.1).length).toFinset)
  refine ⟨most + 1, fun path hthere => Nat.lt_succ_of_le (hmost _ ?_)⟩
  obtain ⟨dir, hdir⟩ := contains_eq_true_iff.1 hthere
  have hmem : (path, dir) ∈ fs.index.toList := Std.ExtTreeMap.mem_toList_iff_getElem?_eq_some.2 hdir
  rw [List.mem_toFinset]
  exact List.mem_map.2 ⟨(path, dir), hmem, rfl⟩

/-- Laid flat, a directory is called by the last of the names that lead to it. -/
theorem TreeShaped.laidFlat_eq (h : TreeShaped Path.IsName fs) {names : List String}
    {dir : Directory} (hnames : ∀ name ∈ names, Path.IsSegment name)
    (hdir : fs.directory? (Path.ofSegments names) = some dir) :
    laidFlat (Path.ofSegments names) dir =
      ⟨names.getLastD Path.root, dir.files, dir.subdirectories⟩ := by
  rcases List.eq_nil_or_concat names with rfl | ⟨init, last, rfl⟩
  · rw [laidFlat, if_pos Path.ofSegments_nil]
    rfl
  · rw [List.concat_eq_append] at *
    obtain ⟨hinit, hlast⟩ := List.forall_mem_append.1 hnames
    have hup : Path.IsCanonical Path.IsSegment (Path.ofSegments init) := ⟨init, hinit, rfl⟩
    have hsegment := hlast last (List.mem_singleton_self last)
    have hroot := Path.child_ne_root hup hsegment
    rw [Path.ofSegments_append_singleton] at *
    have hname := (h.fits hdir).name_eq hroot
    rw [Path.lastName_child hup hsegment] at hname
    rw [laidFlat, if_neg hroot, List.getLastD_concat, ← hname]

/-- What is found in the tree below the names is what is kept under the names and those walked. -/
theorem TreeShaped.node?_treeFrom (h : TreeShaped Path.IsName fs) {depth : Nat}
    (names more : List String) (hnames : ∀ name ∈ names ++ more, Path.IsSegment name)
    (hthere : fs.contains (Path.ofSegments names) = true)
    (hdepth : ∀ path, fs.contains path = true →
      (Path.segments path).length < names.length + depth) :
    ((fs.treeFrom depth names).node? more).map (Tree.directoryAt (names ++ more)) =
      (fs.directory? (Path.ofSegments (names ++ more))).map
        (laidFlat (Path.ofSegments (names ++ more))) := by
  induction more generalizing depth names with
  | nil =>
    rw [List.append_nil] at *
    obtain ⟨dir, hdir⟩ := contains_eq_true_iff.1 hthere
    -- The directory is one of those that the depth was chosen for, so it is not used up here.
    have hdeep := hdepth _ hthere
    rw [Path.segments_ofSegments hnames] at hdeep
    obtain ⟨rest, rfl⟩ := Nat.exists_eq_add_one_of_ne_zero (n := depth) (by omega)
    rw [treeFrom_of_some hdir, hdir, Tree.node?, Option.map_some, Option.map_some,
      h.laidFlat_eq hnames hdir]
    simp [Tree.directoryAt, Function.comp_def]
  | cons name more ih =>
    obtain ⟨hparent, -⟩ := List.forall_mem_append.1 hnames
    obtain ⟨dir, hdir⟩ := contains_eq_true_iff.1 hthere
    have hdeep := hdepth _ hthere
    rw [Path.segments_ofSegments hparent] at hdeep
    obtain ⟨rest, rfl⟩ := Nat.exists_eq_add_one_of_ne_zero (n := depth) (by omega)
    have hsegment : Path.IsSegment name := hnames name (by simp)
    have hchild : fs.contains (Path.ofSegments (names ++ [name])) = true ↔
        name ∈ dir.subdirectories := by
      rw [Path.ofSegments_append_singleton, h.child ⟨names, hparent, rfl⟩ hsegment, lists_iff hdir]
    rw [List.append_cons] at hnames ⊢
    rw [treeFrom_of_some hdir, Tree.node?, lookup_treeFrom]
    by_cases hlisted : name ∈ dir.subdirectories
    · rw [if_pos hlisted, Option.bind_some]
      refine ih (names ++ [name]) hnames (hchild.2 hlisted) fun path hpath => ?_
      have hbound := hdepth path hpath
      rw [List.length_append, List.length_singleton]
      omega
    · -- Whatever lies further down would put a directory under the name that is not listed.
      have hgone : fs.contains (Path.ofSegments (names ++ [name] ++ more)) = false := by
        rw [Bool.eq_false_iff]
        exact fun hdeeper => hlisted (hchild.1 (h.contains_of_append hnames hdeeper))
      rw [if_neg hlisted, contains_eq_false_iff.1 hgone]
      rfl

theorem TreeShaped.exists_tree (h : TreeShaped Path.IsName fs) :
    ∃ t : Tree, t.Unique ∧ fs.Flattens t := by
  obtain ⟨depth, hdepth⟩ := fs.exists_depth
  refine ⟨fs.treeFrom depth [], h.unique_treeFrom depth [], fun path => ?_⟩
  by_cases hpath : Path.IsCanonical Path.IsSegment path
  · obtain ⟨names, hnames, rfl⟩ := hpath
    rw [Tree.directory?_ofSegments _ hnames]
    have hroot : fs.contains (Path.ofSegments []) = true := by
      rw [Path.ofSegments_nil]
      exact h.root
    refine (h.node?_treeFrom [] names hnames hroot fun place hplace => ?_).symm
    simpa using hdepth place hplace
  · have hfs : fs.directory? path = none :=
      Option.eq_none_iff_forall_ne_some.2 fun dir hdir =>
        hpath ((h.fits hdir).canonical.mono fun _ => Path.IsName.isSegment)
    rw [hfs, Tree.directory?_of_not_canonical hpath, Option.map_none]

/-! ## From a tree to the shape -/

theorem laidFlat_lists (path : String) (dir : Directory) :
    (laidFlat path dir).subdirectories = dir.subdirectories ∧
      (laidFlat path dir).files = dir.files := by
  rw [laidFlat]
  split
  · exact ⟨rfl, rfl⟩
  · exact ⟨rfl, rfl⟩

namespace Flattens

theorem directory?_ofSegments (h : fs.Flattens t) {names : List String}
    (hnames : ∀ name ∈ names, Path.IsSegment name) :
    (fs.directory? (Path.ofSegments names)).map (laidFlat (Path.ofSegments names)) =
      (t.node? names).map (Tree.directoryAt names) := by
  rw [h, t.directory?_ofSegments hnames]

theorem contains_eq (h : fs.Flattens t) {names : List String}
    (hnames : ∀ name ∈ names, Path.IsSegment name) :
    fs.contains (Path.ofSegments names) = (t.node? names).isSome := by
  have hsome := congrArg Option.isSome (h.directory?_ofSegments hnames)
  rwa [Option.isSome_map, Option.isSome_map] at hsome

/-- A directory holds what the node at its names holds, and below the root it has its name. -/
theorem exists_node (h : fs.Flattens t) {names : List String} {dir : Directory}
    (hnames : ∀ name ∈ names, Path.IsSegment name)
    (hdir : fs.directory? (Path.ofSegments names) = some dir) :
    ∃ node, t.node? names = some node ∧ dir.subdirectories = node.dirs.map (·.1) ∧
      dir.files.map (·.name) = node.files.map (·.1) ∧
      (Path.ofSegments names ≠ Path.root → dir.name = names.getLastD Path.root) := by
  have hflat := h.directory?_ofSegments hnames
  rw [hdir, Option.map_some] at hflat
  obtain ⟨node, hnode, hkept⟩ := Option.map_eq_some_iff.1 hflat.symm
  obtain ⟨hdirs, hfiles⟩ := laidFlat_lists (Path.ofSegments names) dir
  refine ⟨node, hnode, ?_, ?_, fun hroot => ?_⟩
  · rw [← hdirs, ← hkept]
    rfl
  · rw [← hfiles, ← hkept, Tree.names_directoryAt]
  · rw [laidFlat, if_neg hroot] at hkept
    rw [← hkept]
    rfl

theorem treeShaped (h : fs.Flattens t) (hunique : t.Unique) (hnamed : fs.WellNamed) :
    TreeShaped Path.IsName fs := by
  refine ⟨?_, fun {path dir} hdir => ?_, fun {path name} hpath hname => ?_⟩
  · rw [← Path.ofSegments_nil, h.contains_eq (by simp)]
    rfl
  · obtain ⟨names, hgood, rfl⟩ := hnamed.canonical hdir
    have hnames : ∀ name ∈ names, Path.IsSegment name := fun name hname =>
      (hgood name hname).isSegment
    obtain ⟨node, hnode, hdirs, hfiles, hlast⟩ := h.exists_node hnames hdir
    obtain ⟨hnodupDirs, hnodupFiles, -⟩ := hunique.node? hnode
    refine ⟨hnamed.canonical hdir, fun hroot => ?_, hnamed.listed hdir, hdirs ▸ hnodupDirs,
      hfiles ▸ hnodupFiles⟩
    rw [hlast hroot, Path.lastName, Path.segments_ofSegments hnames]
    cases names with
    | nil => exact absurd Path.ofSegments_nil hroot
    | cons first rest => rw [List.getLastD_cons, List.getLastD_cons]
  · obtain ⟨names, hnames, rfl⟩ := hpath
    have hall : ∀ other ∈ names ++ [name], Path.IsSegment other :=
      List.forall_mem_append.2 ⟨hnames, List.forall_mem_singleton.2 hname⟩
    rw [← Path.ofSegments_append_singleton, h.contains_eq hall]
    cases hdir : fs.directory? (Path.ofSegments names) with
    | none =>
      have hnone : t.node? names = none := by
        rw [← Option.isNone_iff_eq_none, ← Option.not_isSome, ← h.contains_eq hnames,
          contains_eq_false_iff.2 hdir]
        rfl
      simp [Tree.node?_append, hnone, Lists, hdir]
    | some dir =>
      obtain ⟨node, hnode, hdirs, -⟩ := h.exists_node hnames hdir
      rw [Tree.isSome_node?_append_singleton hnode, lists_iff hdir, hdirs]

end Flattens

/-- On an index with canonical paths and names that can be walked by, the check passes exactly if
the index is some tree laid flat, in which no node has two subdirectories or two files of one
name. -/
theorem isConsistent_iff_exists_tree (hnamed : fs.WellNamed) :
    fs.isConsistent = true ↔ ∃ t : Tree, t.Unique ∧ fs.Flattens t := by
  constructor
  · intro hconsistent
    exact (treeShaped_of_isConsistent hnamed hconsistent).exists_tree
  · rintro ⟨t, hunique, hflat⟩
    exact (hflat.treeShaped hunique hnamed).isConsistent fun _ hname => hname

/-- One listed directory below a root of another name passes. A directory that nothing leads to
does not, although everything that is listed is there. -/
theorem isConsistent_iff_exists_tree_lost :
    let grown := (bare.put Path.root ⟨"top", [⟨"a/b", "x"⟩], ["home"]⟩).put "/home/" (.empty "home")
    let lost := bare.put "/lost/child/" (.empty "child")
    (grown.WellNamed ∧ ∃ t : Tree, t.Unique ∧ grown.Flattens t) ∧
      lost.WellNamed ∧ ¬ ∃ t : Tree, t.Unique ∧ lost.Flattens t := by
  intro grown lost
  have hbare : bare.WellNamed := TreeShaped.bare.wellNamed
  have hhome : Path.IsName "home" := ⟨⟨by decide, by decide⟩, by decide, by decide⟩
  have hlost : Path.IsName "lost" := ⟨⟨by decide, by decide⟩, by decide, by decide⟩
  have hchild : Path.IsName "child" := ⟨⟨by decide, by decide⟩, by decide, by decide⟩
  have hgrown : grown.WellNamed :=
    (hbare.put Path.isCanonical_root (List.forall_mem_singleton.2 hhome)).put
      (Path.isCanonical_root.child hhome) (by simp [Directory.empty])
  have hnowhere : lost.WellNamed :=
    hbare.put ((Path.isCanonical_root.child hlost).child hchild) (by simp [Directory.empty])
  refine ⟨⟨hgrown, (isConsistent_iff_exists_tree hgrown).1 (by decide +kernel)⟩, hnowhere, ?_⟩
  rw [← isConsistent_iff_exists_tree hnowhere]
  decide +kernel

end FileSystem

end MemShell
