import MemShell.FileSystem.Directory

/-!
# The files of one directory

File names are unique within a directory, and each change of its files keeps them so. Then the
list of files is a map from names to contents that remembers the order of creation: dropping a
file filters it out (`dropFile_files`), and putting a file replaces it where it stands or adds it
at the end (`putContent_eq`).
-/

namespace MemShell.Directory

theorem isEmpty_iff {dir : Directory} :
    dir.isEmpty = true ↔ dir.files = [] ∧ dir.subdirectories = [] := by
  rw [isEmpty, Bool.and_eq_true, List.isEmpty_iff, List.isEmpty_iff]

theorem file?_eq_none_iff {dir : Directory} {name : String} :
    dir.file? name = none ↔ name ∉ dir.files.map (·.name) := by
  simp [file?]

/-! ## Putting a file -/

/-- Files of other names in front are passed by. -/
theorem putContent_append {name content : String} {files others : List File}
    (h : name ∉ files.map (·.name)) :
    putContent name content (files ++ others) = files ++ putContent name content others := by
  induction files with
  | nil => rfl
  | cons file files ih =>
    simp only [List.map_cons, List.mem_cons, not_or] at h
    rw [List.cons_append, putContent, if_neg (Ne.symm h.1), ih h.2, List.cons_append]

theorem putContent_of_not_mem {name content : String} {files : List File}
    (h : name ∉ files.map (·.name)) :
    putContent name content files = files ++ [⟨name, content⟩] := by
  have happend : putContent name content (files ++ []) = files ++ putContent name content [] :=
    putContent_append h
  rwa [List.append_nil] at happend

theorem replace_of_not_mem {name : String} {files : List File} (file : File)
    (h : name ∉ files.map (·.name)) :
    (files.map fun other => if other.name = name then file else other) = files := by
  induction files with
  | nil => rfl
  | cons other files ih =>
    simp only [List.map_cons, List.mem_cons, not_or] at h
    rw [List.map_cons, if_neg (Ne.symm h.1), ih h.2]

/-- With unique names, putting a file that is there replaces it and no other. -/
theorem putContent_of_mem {name content : String} {files : List File}
    (hnodup : (files.map (·.name)).Nodup) (h : name ∈ files.map (·.name)) :
    putContent name content files =
      files.map fun file => if file.name = name then ⟨name, content⟩ else file := by
  induction files with
  | nil => simp at h
  | cons file files ih =>
    obtain ⟨hhead, htail⟩ := List.nodup_cons.1 hnodup
    rw [putContent, List.map_cons]
    by_cases hname : file.name = name
    · subst hname
      rw [if_pos rfl, if_pos rfl, replace_of_not_mem _ hhead]
    · rw [if_neg hname, if_neg hname, ih htail]
      simpa [Ne.symm hname] using h

/-- What putting a file does to the list of files. -/
theorem putContent_eq {name content : String} {files : List File}
    (hnodup : (files.map (·.name)).Nodup) :
    putContent name content files =
      if name ∈ files.map (·.name) then
        files.map fun file => if file.name = name then ⟨name, content⟩ else file
      else files ++ [⟨name, content⟩] := by
  split
  · next hmem => exact putContent_of_mem hnodup hmem
  · next hmem => exact putContent_of_not_mem hmem

theorem names_putContent {name content : String} {files : List File} :
    (putContent name content files).map (·.name) =
      if name ∈ files.map (·.name) then files.map (·.name) else files.map (·.name) ++ [name] := by
  induction files with
  | nil => rfl
  | cons file files ih =>
    rw [putContent]
    by_cases hname : file.name = name
    · simp [hname]
    · rw [if_neg hname, List.map_cons, ih]
      by_cases hmem : name ∈ files.map (·.name)
      · simp [hmem]
      · simp [hmem, Ne.symm hname]

theorem file?_putFile (dir : Directory) (name content : String) :
    (dir.putFile name content).file? name = some ⟨name, content⟩ := by
  rw [file?, putFile]
  generalize dir.files = files
  induction files with
  | nil => simp [putContent]
  | cons file files ih =>
    rw [putContent]
    by_cases hname : file.name = name
    · subst hname
      simp
    · rw [if_neg hname, List.find?_cons_of_neg (by simpa using hname)]
      exact ih

theorem putFile_of_fresh {dir : Directory} {name : String} (hfresh : dir.file? name = none)
    (content : String) : dir.putFile name content = dir.addFile ⟨name, content⟩ := by
  rw [putFile, putContent_of_not_mem (file?_eq_none_iff.1 hfresh), addFile]

/-! ## A file that was added -/

theorem file?_addFile {dir : Directory} {name : String} (hfresh : dir.file? name = none)
    (content : String) : (dir.addFile ⟨name, content⟩).file? name = some ⟨name, content⟩ := by
  rw [file?] at hfresh
  rw [file?, addFile, List.find?_append, hfresh]
  simp

/-- It is written in its place. -/
theorem putFile_addFile {dir : Directory} {name : String} (hfresh : dir.file? name = none)
    (old content : String) :
    (dir.addFile ⟨name, old⟩).putFile name content = dir.addFile ⟨name, content⟩ := by
  rw [putFile, addFile, putContent_append (file?_eq_none_iff.1 hfresh), putContent, if_pos rfl,
    addFile]

/-- It is dropped without a trace. -/
theorem dropFile_addFile {dir : Directory} {name : String} (hfresh : dir.file? name = none)
    (content : String) : (dir.addFile ⟨name, content⟩).dropFile name = dir := by
  have hothers : ∀ file ∈ dir.files, ¬ (file.name == name) = true := List.find?_eq_none.1 hfresh
  rw [dropFile, addFile, List.eraseP_append_right _ hothers, List.eraseP_cons_of_pos (by simp),
    List.append_nil]

/-! ## Unique names -/

theorem nodup_addFile {dir : Directory} {file : File} (h : (dir.files.map (·.name)).Nodup)
    (hfresh : dir.file? file.name = none) : ((dir.addFile file).files.map (·.name)).Nodup := by
  rw [addFile, List.map_append, List.nodup_append]
  refine ⟨h, by simp, fun name hname other hother heq => ?_⟩
  rw [List.map_singleton, List.mem_singleton] at hother
  rw [heq, hother] at hname
  exact file?_eq_none_iff.1 hfresh hname

theorem nodup_putFile {dir : Directory} (name content : String)
    (h : (dir.files.map (·.name)).Nodup) :
    ((dir.putFile name content).files.map (·.name)).Nodup := by
  rw [putFile, names_putContent]
  split
  · exact h
  · next hname =>
    rw [List.nodup_append]
    refine ⟨h, by simp, fun other hother same hsame heq => ?_⟩
    rw [heq, List.mem_singleton.1 hsame] at hother
    exact hname hother

theorem nodup_dropFile {dir : Directory} (name : String) (h : (dir.files.map (·.name)).Nodup) :
    ((dir.dropFile name).files.map (·.name)).Nodup :=
  h.sublist (List.eraseP_sublist.map _)

/-- Dropping a file takes out the first entry of its name and no other. -/
theorem exists_dropFile {dir : Directory} {name : String} {file : File}
    (h : dir.file? name = some file) :
    ∃ before behind, dir.files = before ++ file :: behind ∧ file.name = name ∧
      (∀ other ∈ before, other.name ≠ name) ∧
      dir.dropFile name = { dir with files := before ++ behind } := by
  obtain ⟨hname, before, behind, hfiles, hbefore⟩ := List.find?_eq_some_iff_append.1 h
  have hothers : ∀ other ∈ before, ¬ (other.name == name) = true := by simpa using hbefore
  refine ⟨before, behind, hfiles, beq_iff_eq.1 hname, by simpa using hothers, ?_⟩
  have hrest : (file :: behind).eraseP (·.name == name) = behind := List.eraseP_cons_of_pos hname
  rw [dropFile, hfiles, List.eraseP_append_right _ hothers, hrest]

/-- With unique names, dropping a file leaves exactly the files of other names. -/
theorem dropFile_files {dir : Directory} (name : String) (h : (dir.files.map (·.name)).Nodup) :
    (dir.dropFile name).files = dir.files.filter (·.name ≠ name) := by
  rw [dropFile]
  generalize dir.files = files at h
  induction files with
  | nil => rfl
  | cons file files ih =>
    obtain ⟨hhead, htail⟩ := List.nodup_cons.1 h
    by_cases hname : file.name = name
    · subst hname
      have hrest : files.filter (·.name ≠ file.name) = files := by
        refine List.filter_eq_self.2 fun other hother => ?_
        have hne : other.name ≠ file.name := fun heq =>
          hhead (List.mem_map.2 ⟨other, hother, heq⟩)
        simpa using hne
      rw [List.eraseP_cons_of_pos (by simp), List.filter_cons_of_neg (by simp), hrest]
    · rw [List.eraseP_cons_of_neg (by simpa using hname),
        List.filter_cons_of_pos (by simpa using hname)]
      exact congrArg (file :: ·) (ih htail)

end MemShell.Directory
