import MemShell.Proofs.FileSystem.Operation

/-!
# Ordered trees with files

What a file system stands for: a rooted tree whose nodes hold their files and their subtrees, each
in the order of creation. There is no index here and nothing is held twice. A path denotes a node
only if it is written exactly as the names that lead to the node are written (`names?_eq_some_iff`),
and every operation is said by what it does to the one node that a path denotes.
-/

namespace MemShell

/-- A directory with all that is below it: its files, names with contents, and its subdirectories
by name. -/
structure Tree where
  files : List (String × String)
  dirs : List (String × Tree)

namespace Tree

open FileSystem (Operation Answer isValidName)

/-- A directory that holds nothing. -/
def leaf : Tree := ⟨[], []⟩

/-- The node that the names lead to, one after the other. -/
def node? (t : Tree) : List String → Option Tree
  | [] => some t
  | name :: names => (t.dirs.lookup name).bind fun child => child.node? names

/-- The tree with a change made at the node that the names lead to. -/
def update (change : Tree → Tree) (t : Tree) : List String → Tree
  | [] => change t
  | name :: names =>
    { t with
      dirs := t.dirs.map fun (other, child) =>
        (other, if other = name then child.update change names else child) }

/-- The names that a path is the canonical path of. -/
def names? (path : String) : Option (List String) :=
  if Path.ofSegments (Path.segments path) = path then some (Path.segments path) else none

/-- The node that a path denotes, behind the names that lead to it. -/
def find? (t : Tree) (path : String) : Option (List String × Tree) :=
  (names? path).bind fun names => (t.node? names).map (names, ·)

/-! ## The tree laid flat -/

/-- What a file system keeps of the node that the names lead to. -/
def directoryAt (names : List String) (node : Tree) : Directory :=
  ⟨names.getLastD Path.root, node.files.map fun (name, content) => ⟨name, content⟩,
    node.dirs.map (·.1)⟩

/-- What a file system keeps under a path. -/
def directory? (t : Tree) (path : String) : Option Directory :=
  (t.find? path).map fun (names, node) => directoryAt names node

/-! ## Operations -/

def addDirectory (name : String) (t : Tree) : Tree := { t with dirs := t.dirs ++ [(name, leaf)] }

def dropDirectory (name : String) (t : Tree) : Tree :=
  { t with dirs := t.dirs.filter (·.1 ≠ name) }

def dropFile (name : String) (t : Tree) : Tree := { t with files := t.files.filter (·.1 ≠ name) }

/-- The content replaced where the file stands, or the file added at the end. -/
def putFile (name content : String) (t : Tree) : Tree :=
  if name ∈ t.files.map (·.1) then
    { t with
      files := t.files.map fun (other, old) => (other, if other = name then content else old) }
  else { t with files := t.files ++ [(name, content)] }

theorem dirs_putFile (name content : String) (t : Tree) :
    (t.putFile name content).dirs = t.dirs := by
  rw [putFile]
  split <;> rfl

/-- What an operation on the node at `path` gives; a path that denotes no node is not found. -/
def at? (t : Tree) (path : String)
    (result : List String → Tree → Except FsError (Answer × Tree)) :
    Except FsError (Answer × Tree) :=
  match t.find? path with
  | none => .error (.notFound (Path.display path))
  | some (names, node) => result names node

/-- The answer to an operation and the tree that it leaves, or why it is refused. -/
def carryOut (t : Tree) : Operation → Except FsError (Answer × Tree)
  | .makeDirectory parent name =>
    if isValidName name = false then .error (.invalidName name)
    else t.at? parent fun names node =>
      if name ∈ node.dirs.map (·.1) then .error (.alreadyExists name)
      else .ok (.path (Path.ofSegments (names ++ [name])), t.update (addDirectory name) names)
  | .removeDirectory path =>
    if path = Path.root then .error (.busy path)
    else t.at? path fun names node =>
      if node.files = [] ∧ node.dirs = [] then
        .ok (.done, t.update (dropDirectory (names.getLastD "")) names.dropLast)
      else .error (.notEmpty (Path.display path))
  | .list path => t.at? path fun _ node =>
    .ok (.listing ⟨node.dirs.map (·.1), node.files.map (·.1)⟩, t)
  | .openFile path name => t.at? path fun names node =>
    match node.files.lookup name with
    | some content => .ok (.file ⟨name, content⟩, t)
    | none => .ok (.file ⟨name, ""⟩, t.update (putFile name "") names)
  | .erase path name => t.at? path fun names node =>
    if name ∈ node.files.map (·.1) then .ok (.done, t.update (dropFile name) names)
    else .error (.notFound name)
  | .content path name => t.at? path fun _ node =>
    match node.files.lookup name with
    | some content => .ok (.content content, t)
    | none => .error (.notFound name)
  | .write path name content => t.at? path fun names _ =>
    .ok (.done, t.update (putFile name content) names)
  | .contains path => .ok (.isThere (t.find? path).isSome, t)

/-- Carry out one operation; a refused one leaves the tree as it is. -/
def perform (t : Tree) (op : Operation) : Outcome Tree (Except FsError Answer) :=
  match t.carryOut op with
  | .ok (answer, next) => ⟨.ok answer, next, []⟩
  | .error e => ⟨.error e, t, []⟩

/-! ## Paths and nodes -/

/-- A path denotes something only if it is the canonical path of the names. -/
theorem names?_eq_some_iff {path : String} {names : List String} :
    names? path = some names ↔
      (∀ name ∈ names, Path.IsSegment name) ∧ path = Path.ofSegments names := by
  constructor
  · intro h
    rw [names?] at h
    split at h
    · next heq =>
      cases h
      exact ⟨fun name hname => Path.isSegment_of_mem_segments hname, heq.symm⟩
    · cases h
  · rintro ⟨hnames, rfl⟩
    rw [names?, Path.segments_ofSegments hnames, if_pos rfl]

theorem find?_eq_some_iff {t node : Tree} {path : String} {names : List String} :
    t.find? path = some (names, node) ↔
      (∀ name ∈ names, Path.IsSegment name) ∧ path = Path.ofSegments names ∧
        t.node? names = some node := by
  simp only [find?, Option.bind_eq_some_iff, names?_eq_some_iff, Option.map_eq_some_iff,
    Prod.mk.injEq]
  constructor
  · rintro ⟨_, ⟨hnames, hpath⟩, _, hnode, rfl, rfl⟩
    exact ⟨hnames, hpath, hnode⟩
  · rintro ⟨hnames, hpath, hnode⟩
    exact ⟨names, ⟨hnames, hpath⟩, node, hnode, rfl, rfl⟩

theorem node?_append (t : Tree) (names more : List String) :
    t.node? (names ++ more) = (t.node? names).bind fun node => node.node? more := by
  induction names generalizing t with
  | nil => rfl
  | cons name names ih =>
    rw [List.cons_append, node?, node?, Option.bind_assoc]
    exact congrArg _ (funext fun child => ih child)

theorem lookup_eq_none_iff {α : Type} {name : String} {entries : List (String × α)} :
    entries.lookup name = none ↔ name ∉ entries.map (·.1) := by
  rw [List.lookup_eq_none_iff, List.mem_map]
  constructor
  · rintro h ⟨entry, hentry, rfl⟩
    exact absurd (h entry hentry) (by simp)
  · exact fun h entry hentry => bne_iff_ne.2 fun heq => h ⟨entry, hentry, heq.symm⟩

theorem node?_of_not_mem {t : Tree} {name : String} {names : List String}
    (h : name ∉ t.dirs.map (·.1)) : t.node? (name :: names) = none := by
  rw [node?, lookup_eq_none_iff.2 h, Option.bind_none]

theorem node?_leaf_cons (name : String) (names : List String) :
    leaf.node? (name :: names) = none := rfl

/-! ## Nodes after a change -/

theorem node?_addDirectory_self {t : Tree} {name : String} {names : List String}
    (h : name ∉ t.dirs.map (·.1)) :
    (t.addDirectory name).node? (name :: names) = leaf.node? names := by
  simp [node?, addDirectory, List.lookup_append, lookup_eq_none_iff.2 h]

theorem node?_addDirectory_of_ne {t : Tree} {name other : String} {names : List String}
    (h : other ≠ name) :
    (t.addDirectory name).node? (other :: names) = t.node? (other :: names) := by
  have hmiss : [(name, leaf)].lookup other = none := lookup_eq_none_iff.2 (by simpa using h)
  rw [node?, node?, addDirectory, List.lookup_append, hmiss, Option.or_none]

theorem node?_dropDirectory_self (t : Tree) (name : String) (names : List String) :
    (t.dropDirectory name).node? (name :: names) = none :=
  node?_of_not_mem (by simp [dropDirectory])

theorem node?_dropDirectory_of_ne {t : Tree} {name other : String} {names : List String}
    (h : other ≠ name) :
    (t.dropDirectory name).node? (other :: names) = t.node? (other :: names) := by
  have hlookup : (t.dirs.filter (·.1 ≠ name)).lookup other = t.dirs.lookup other := by
    generalize t.dirs = dirs
    induction dirs with
    | nil => rfl
    | cons dir dirs ih =>
      by_cases hdir : dir.1 = name
      · rw [List.filter_cons_of_neg (by simpa using hdir), List.lookup_cons,
          beq_false_of_ne (hdir ▸ h)]
        exact ih
      · rw [List.filter_cons_of_pos (by simpa using hdir), List.lookup_cons, List.lookup_cons, ih]
  rw [node?, node?, dropDirectory, hlookup]

theorem lookup_update_dirs (change : Tree → Tree) (name other : String) (names : List String)
    (dirs : List (String × Tree)) :
    (dirs.map fun (other, child) =>
      (other, if other = name then child.update change names else child)).lookup other =
      (dirs.lookup other).map fun child =>
        if other = name then child.update change names else child := by
  induction dirs with
  | nil => rfl
  | cons dir dirs ih =>
    obtain ⟨here, child⟩ := dir
    rw [List.map_cons, List.lookup_cons, List.lookup_cons]
    by_cases hhere : other = here
    · simp [hhere]
    · rw [beq_false_of_ne hhere]
      exact ih

/-- At the node of the change and below it, the tree is the changed node. -/
theorem node?_update_append (change : Tree → Tree) (t : Tree) (names more : List String) :
    (t.update change names).node? (names ++ more) =
      (t.node? names).bind fun node => (change node).node? more := by
  induction names generalizing t with
  | nil => rfl
  | cons name names ih =>
    rw [List.cons_append, node?, update, lookup_update_dirs, node?, Option.bind_assoc]
    cases t.dirs.lookup name with
    | none => rfl
    | some child => simpa using ih child

/-- Away from the node of the change and what is below it, nothing shows of the change. -/
theorem node?_update_of_not_prefix (change : Tree → Tree) {names others place : List String}
    (h : ¬ names <+: others) (t : Tree) :
    ((t.update change names).node? others).map (directoryAt place) =
      (t.node? others).map (directoryAt place) := by
  induction names generalizing t others with
  | nil => exact absurd List.nil_prefix h
  | cons name names ih =>
    cases others with
    | nil => simp [node?, update, directoryAt, Function.comp_def]
    | cons other others =>
      rw [node?, update, lookup_update_dirs, node?]
      cases t.dirs.lookup other with
      | none => rfl
      | some child =>
        by_cases hname : other = name
        · have hrest : ¬ names <+: others := fun hprefix =>
            h (List.cons_prefix_cons.2 ⟨hname.symm, hprefix⟩)
          simpa [hname] using ih hrest child
        · simp [hname]

end Tree

end MemShell
