import Mathlib.Data.List.ReduceOption
import MemShell.Proofs.Session.Standing

/-!
# Making several directories

`mkdir` tries its names one after the other, each in the file system that the names before it have
left. In a tree what becomes of them can be told beforehand: a name is made into a directory if it
matches the pattern of names, the directory does not list it and it was not tried before (`IsNew`).
A name that was tried before and is neither listed nor ill-formed has been made and is listed by
now, so names that were tried and names that are listed can be traded for one another
(`isNew_cons`). This carries the induction over the names, for the answers
(`makeDirectories_value`) and for the directories (`directory?_makeDirectories`), and
`mkdir_decided` puts both together for the command.
-/

namespace MemShell

namespace FileSystem

/-- The name matches `^[A-Za-z0-9_-]+$`. -/
def MatchesPattern (name : String) : Prop :=
  name ≠ "" ∧ ∀ c ∈ name.toList,
    ('A' ≤ c ∧ c ≤ 'Z') ∨ ('a' ≤ c ∧ c ≤ 'z') ∨ ('0' ≤ c ∧ c ≤ '9') ∨ c = '_' ∨ c = '-'

instance (name : String) : Decidable (MatchesPattern name) := inferInstanceAs (Decidable (_ ∧ _))

/-- The name can be made into a directory next to those that are listed, when the earlier names have
been tried. -/
def IsNew (listed earlier : List String) (name : String) : Prop :=
  MatchesPattern name ∧ name ∉ listed ∧ name ∉ earlier

instance (listed earlier : List String) (name : String) : Decidable (IsNew listed earlier name) :=
  inferInstanceAs (Decidable (_ ∧ _))

/-- Why a name that is not new is refused. -/
def refusal (name : String) : FsError :=
  if MatchesPattern name then .alreadyExists name else .invalidName name

/-- What becomes of a name in the directory at `parent`. -/
def verdict (parent : String) (listed earlier : List String) (name : String) :
    Except FsError String :=
  if IsNew listed earlier name then .ok (Path.child parent name) else .error (refusal name)

/-- The names that are made into directories, in order. -/
def created (listed names : List String) : List String :=
  (names.mapIdx fun i name =>
    if IsNew listed (names.take i) name then some name else none).reduceOption

variable {fs : FileSystem} {parent name : String} {dir : Directory} {listed : List String}

theorem isValidName_iff {name : String} : isValidName name = true ↔ MatchesPattern name := by
  have hchar : ∀ c : Char, isNameChar c = true ↔
      ('A' ≤ c ∧ c ≤ 'Z') ∨ ('a' ≤ c ∧ c ≤ 'z') ∨ ('0' ≤ c ∧ c ≤ '9') ∨ c = '_' ∨ c = '-' := by
    intro c
    have hclasses : isNameChar c =
        (decide ('A' ≤ c ∧ c ≤ 'Z') || (decide ('a' ≤ c) && decide (c ≤ 'z')) ||
          (decide ('0' ≤ c) && decide (c ≤ '9')) || c == '_' || c == '-') := rfl
    rw [hclasses]
    simp only [Bool.or_eq_true, Bool.and_eq_true, decide_eq_true_eq, beq_iff_eq, or_assoc]
  rw [isValidName, MatchesPattern, Bool.and_eq_true, List.all_eq_true]
  simp only [hchar]
  simp

/-! ## New names -/

theorem created_singleton (listed : List String) (name : String) :
    created listed [name] = if IsNew listed [] name then [name] else [] := by
  rw [created, List.mapIdx_cons, List.mapIdx_nil, List.take_zero]
  split
  · rfl
  · rfl

/-- A name that was tried is listed by now or would be refused anyway. -/
theorem isNew_cons {earlier : List String} {other : String} :
    IsNew listed (name :: earlier) other ↔
      IsNew (listed ++ created listed [name]) earlier other := by
  rw [created_singleton]
  by_cases heq : other = name
  · subst heq
    by_cases hnew : IsNew listed [] other
    · rw [if_pos hnew]
      simp [IsNew]
    · have hnever : ∀ tried, ¬ IsNew listed tried other := by
        intro tried htried
        exact hnew ⟨htried.1, htried.2.1, List.not_mem_nil⟩
      rw [if_neg hnew, List.append_nil]
      exact iff_of_false (hnever _) (hnever _)
  · by_cases hnew : IsNew listed [] name
    · rw [if_pos hnew]
      simp [IsNew, heq]
    · rw [if_neg hnew]
      simp [IsNew, heq]

theorem created_cons (listed : List String) (name : String) (names : List String) :
    created listed (name :: names) =
      created listed [name] ++ created (listed ++ created listed [name]) names := by
  have hothers : (fun i other =>
        if IsNew listed (name :: names.take i) other then some other else none) =
      fun i other => if IsNew (listed ++ created listed [name]) (names.take i) other then some other
        else none :=
    funext₂ fun i other => if_congr isNew_cons rfl rfl
  have hcut : created listed (name :: names) =
      ((if IsNew listed [] name then some name else none) :: names.mapIdx fun i other =>
        if IsNew listed (name :: names.take i) other then some other else none).reduceOption := by
    rw [created, List.mapIdx_cons]
    rfl
  rw [hcut, hothers, created_singleton]
  by_cases hnew : IsNew listed [] name
  · rw [if_pos hnew, if_pos hnew, List.reduceOption_cons_of_some]
    rfl
  · rw [if_neg hnew, if_neg hnew, List.reduceOption_cons_of_none]
    rfl

theorem verdict_cons {earlier : List String} {other : String} :
    verdict parent listed (name :: earlier) other =
      verdict parent (listed ++ created listed [name]) earlier other :=
  if_congr isNew_cons rfl rfl

/-! ## One name -/

theorem makeDirectory_of_isNew (h : TreeShaped ValidName fs)
    (hdir : fs.directory? parent = some dir) (hnew : IsNew dir.subdirectories [] name) :
    fs.makeDirectory parent name = .ok ⟨Path.child parent name,
      (fs.put (Path.child parent name) (.empty name)).put parent (dir.addSubdirectory name),
      [.directoryCreated (Path.child parent name)]⟩ := by
  have hname : ValidName name := isValidName_iff.2 hnew.1
  have hparent := h.segment_of_directory? hdir
  have hfree : fs.directory? (Path.child parent name) = none :=
    (h.directory?_child_eq_none_iff hparent hname.isSegment hdir).2 hnew.2.1
  rw [← Path.join_eq_child hparent hname.isName] at hfree ⊢
  exact makeDirectory_of_fresh hname hdir hfree

theorem makeDirectory_of_not_isNew (h : TreeShaped ValidName fs)
    (hdir : fs.directory? parent = some dir) (hnew : ¬ IsNew dir.subdirectories [] name) :
    fs.makeDirectory parent name = .error (refusal name) := by
  unfold makeDirectory refusal
  by_cases hmatches : MatchesPattern name
  · have hname : ValidName name := isValidName_iff.2 hmatches
    have hparent := h.segment_of_directory? hdir
    have hlisted : name ∈ dir.subdirectories := by
      by_contra hnot
      exact hnew ⟨hmatches, hnot, List.not_mem_nil⟩
    have hthere : fs.contains (Path.join parent name) = true := by
      rw [Path.join_eq_child hparent hname.isName]
      exact (h.child hparent hname.isSegment).2 ⟨dir, hdir, hlisted⟩
    have hvalid : isValidName name = true := hname
    have habove : fs.contains parent = true := contains_eq_true_iff.2 ⟨dir, hdir⟩
    simp [hvalid, habove, hthere, hmatches]
  · have hinvalid : isValidName name = false := by
      rw [← Bool.not_eq_true, isValidName_iff]
      exact hmatches
    rw [if_pos hinvalid, if_neg hmatches]

/-! ## All names -/

/-- What is made of the first name is listed when the others are tried. -/
theorem makeDirectories_cons (h : TreeShaped ValidName fs) (hdir : fs.directory? parent = some dir)
    (name : String) (names : List String) :
    ∃ next, TreeShaped ValidName next ∧
      next.directory? parent =
        some { dir with subdirectories := dir.subdirectories ++ created dir.subdirectories [name] } ∧
      (∀ path, path ≠ parent → next.directory? path =
        if path ∈ (created dir.subdirectories [name]).map (Path.child parent) then
          some (.empty (Path.lastName path))
        else fs.directory? path) ∧
      (fs.makeDirectories parent (name :: names)).value =
        verdict parent dir.subdirectories [] name :: (next.makeDirectories parent names).value ∧
      (fs.makeDirectories parent (name :: names)).state =
        (next.makeDirectories parent names).state := by
  rw [makeDirectories, created_singleton, verdict]
  by_cases hnew : IsNew dir.subdirectories [] name
  · have hmade := makeDirectory_of_isNew h hdir hnew
    have hparent := h.segment_of_directory? hdir
    have hname : Path.IsSegment name := (ValidName.isSegment (isValidName_iff.2 hnew.1))
    refine ⟨_, h.makeDirectory hmade, ?_, fun path hpath => ?_, ?_, ?_⟩
    · rw [if_pos hnew, directory?_put_self]
      rfl
    · rw [if_pos hnew, directory?_put, if_neg (Ne.symm hpath), directory?_put]
      simp only [List.map_singleton, List.mem_singleton]
      split
      · next heq =>
        rw [if_pos heq.symm, ← heq, Path.lastName_child hparent hname]
      · next hne => rw [if_neg (Ne.symm hne)]
    · rw [hmade, if_pos hnew]
    · rw [hmade]
  · have hrefused := makeDirectory_of_not_isNew h hdir hnew
    refine ⟨fs, h, ?_, fun path hpath => ?_, ?_, ?_⟩
    · rw [if_neg hnew, List.append_nil]
      exact hdir
    · rw [if_neg hnew]
      rfl
    · rw [hrefused, if_neg hnew]
    · rw [hrefused]

theorem makeDirectories_value (h : TreeShaped ValidName fs) (hdir : fs.directory? parent = some dir)
    (names : List String) :
    (fs.makeDirectories parent names).value =
      names.mapIdx fun i name => verdict parent dir.subdirectories (names.take i) name := by
  induction names generalizing fs dir with
  | nil => rfl
  | cons name names ih =>
    obtain ⟨next, htree, hnext, -, hvalue, -⟩ := makeDirectories_cons h hdir name names
    rw [hvalue, ih htree hnext, List.mapIdx_cons]
    simp only [List.take_zero, List.take_succ_cons, verdict_cons]

theorem directory?_makeDirectories (h : TreeShaped ValidName fs)
    (hdir : fs.directory? parent = some dir) (names : List String) (path : String) :
    (fs.makeDirectories parent names).state.directory? path =
      if path = parent then
        some { dir with
          subdirectories := dir.subdirectories ++ created dir.subdirectories names }
      else if path ∈ (created dir.subdirectories names).map (Path.child parent) then
        some (.empty (Path.lastName path))
      else fs.directory? path := by
  induction names generalizing fs dir with
  | nil =>
    by_cases hpath : path = parent
    · simp [makeDirectories, created, hpath, hdir]
    · simp [makeDirectories, created, hpath]
  | cons name names ih =>
    obtain ⟨next, htree, hnext, hothers, -, hstate⟩ := makeDirectories_cons h hdir name names
    rw [hstate, ih htree hnext, created_cons dir.subdirectories name names]
    by_cases hpath : path = parent
    · rw [if_pos hpath, if_pos hpath, List.append_assoc]
    · rw [if_neg hpath, if_neg hpath, hothers path hpath, List.map_append]
      simp only [List.mem_append]
      by_cases hlater : path ∈ (created (dir.subdirectories ++ created dir.subdirectories [name])
          names).map (Path.child parent)
      · rw [if_pos hlater, if_pos (.inr hlater)]
      · simp only [hlater, or_false, if_false]

theorem length_makeDirectories_value (fs : FileSystem) (parent : String) (names : List String) :
    (fs.makeDirectories parent names).value.length = names.length := by
  induction names generalizing fs with
  | nil => rfl
  | cons name names ih =>
    rw [makeDirectories]
    split
    · exact congrArg (· + 1) (ih _)
    · exact congrArg (· + 1) (ih _)

/-- Names can be tried in two goes. -/
theorem makeDirectories_append (fs : FileSystem) (parent : String) (names others : List String) :
    let first := fs.makeDirectories parent names
    let second := first.state.makeDirectories parent others
    fs.makeDirectories parent (names ++ others) =
      ⟨first.value ++ second.value, second.state, first.events ++ second.events⟩ := by
  intro first second
  induction names generalizing fs with
  | nil => rfl
  | cons name names ih =>
    simp only [first, second, List.cons_append, makeDirectories]
    cases fs.makeDirectory parent name with
    | ok made => simp [ih made.state]
    | error e => simp [ih fs]

end FileSystem

namespace Session

open FileSystem (IsNew MatchesPattern created)

theorem mkdirLine_verdict (parent : String) (listed earlier : List String) (name : String) :
    mkdirLine name (FileSystem.verdict parent listed earlier name) =
      if IsNew listed earlier name then .success ("Directory '" ++ name ++ "' created")
      else if MatchesPattern name then
        .error ("mkdir: " ++ (FsError.alreadyExists name).message)
      else .error ("mkdir: " ++ (FsError.invalidName name).message) := by
  unfold FileSystem.verdict FileSystem.refusal
  split
  · rfl
  · split
    · rfl
    · rfl

/-- Each name of `mkdir` has one line, in order. It says that the directory was created exactly if
the name matches the pattern, was not listed and does not stand among the names before it; any other
name is taken if it matches the pattern and ill-formed if not. Afterwards the current directory
lists the created names behind the old ones, they are empty directories, and nothing else has
changed. Further names can be tried in the same go or in a second one. -/
theorem mkdir_decided (settings : Settings) (actions : List Action) (names others : List String) :
    let s := after settings actions
    let done := s.execute (.mkdir names)
    let more := done.state.execute (.mkdir others)
    (∃ dir, s.fs.directory? s.cwd = some dir ∧
      done.value = .ofLines (names.mapIdx fun i name =>
        if IsNew dir.subdirectories (names.take i) name then
          .success ("Directory '" ++ name ++ "' created")
        else if MatchesPattern name then
          .error ("mkdir: " ++ (FsError.alreadyExists name).message)
        else .error ("mkdir: " ++ (FsError.invalidName name).message)) ∧
      ∃ fs, done.state = { s with fs } ∧ ∀ path, fs.directory? path =
        if path = s.cwd then
          some { dir with
            subdirectories := dir.subdirectories ++ created dir.subdirectories names }
        else if path ∈ (created dir.subdirectories names).map (Path.child s.cwd) then
          some (.empty (Path.lastName path))
        else s.fs.directory? path) ∧
    s.execute (.mkdir (names ++ others)) =
      ⟨.ofLines (done.value.output ++ more.value.output), more.state,
        done.events ++ more.events⟩ := by
  intro s done more
  have hstanding : Standing s := .after settings actions
  obtain ⟨dir, hdir⟩ := FileSystem.contains_eq_true_iff.1 hstanding.cwd
  have hlines : ∀ (s : Session) names, (s.execute (.mkdir names)).value =
      .ofLines (List.zipWith mkdirLine names (s.fs.makeDirectories s.cwd names).value) :=
    fun s names => rfl
  constructor
  · refine ⟨dir, hdir, ?_, _, rfl, ?_⟩
    · rw [hlines, FileSystem.makeDirectories_value hstanding.tree hdir names]
      apply congrArg Reply.ofLines
      apply List.ext_getElem?
      intro i
      rw [List.getElem?_zipWith, List.getElem?_mapIdx, List.getElem?_mapIdx]
      cases names[i]? with
      | none => rfl
      | some name => exact congrArg some (mkdirLine_verdict s.cwd dir.subdirectories _ name)
    · exact FileSystem.directory?_makeDirectories hstanding.tree hdir names
  · have happend := FileSystem.makeDirectories_append s.fs s.cwd names others
    have hlength := FileSystem.length_makeDirectories_value s.fs s.cwd names
    have hexecute : s.execute (.mkdir (names ++ others)) =
        s.executeMkdir (names ++ others) := rfl
    rw [hexecute, executeMkdir, happend]
    dsimp only
    rw [List.zipWith_append hlength.symm]
    rfl

/-- A name that is taken or ill-formed does not keep the others from being made. -/
example : ((start .standard).state.execute (.mkdir ["music", "a b", "music", "films"])).value =
    .ofLines [.success "Directory 'music' created",
      .error "mkdir: a b: Invalid name (use letters, numbers, '_' and '-')",
      .error "mkdir: music: File exists", .success "Directory 'films' created"] := by
  decide +kernel

end Session

end MemShell
