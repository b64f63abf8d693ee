import MemShell.Proofs.Session.Standing

/-!
# Saving behind the editor's back

Commands can be executed while an editor is open. They can remove its file or its whole directory,
make either anew, move the session or open another editor, so of all that was there when the editor
was opened a save can rely on nothing. It needs nothing but a directory at the path that the editor
keeps: the file is put there under the editor's name (`FileSystem.Upserts`), in place or anew, and
without such a directory nothing is written and the editor says so (`save_decided`). Either way the
editor stays as it is but for what it says, and the answer is logged.
-/

namespace MemShell

namespace FileSystem

/-- The named file of the directory at `path` has the text for its content now, where it stood if it
was there and behind the other files if it was not. Nothing else has changed. -/
structure Upserts (fs : FileSystem) (path name text : String) (next : FileSystem) : Prop where
  content : next.content path name = .ok text
  directory : ∃ dir, fs.directory? path = some dir ∧
    next.directory? path = some
      { dir with
        files :=
          if name ∈ dir.files.map (·.name) then
            dir.files.map fun file => if file.name = name then ⟨name, text⟩ else file
          else dir.files ++ [⟨name, text⟩] }
  others : ∀ other, other ≠ path → next.directory? other = fs.directory? other

variable {fs : FileSystem} {path name text : String}

theorem TreeShaped.upserts {written : Outcome FileSystem Unit} (h : TreeShaped ValidName fs)
    (hwritten : fs.write path name text = .ok written) :
    fs.Upserts path name text written.state := by
  have hcontent := content_write hwritten
  obtain ⟨dir, hdir, rfl⟩ := write_ok hwritten
  refine ⟨hcontent, ⟨dir, hdir, ?_⟩, ?_⟩
  · -- The file is replaced in one place only because no other file has its name.
    rw [directory?_put_self, Directory.putFile,
      Directory.putContent_eq (h.fits hdir).nodup_files]
  · intro other hother
    rw [directory?_put, if_neg (Ne.symm hother)]

theorem write_of_none (hdir : fs.directory? path = none) (name text : String) :
    fs.write path name text = .error (.notFound (Path.display path)) := by
  rw [write, directory_of_none hdir]

end FileSystem

namespace Session

variable {s : Session} {editor : Editor}

/-- The editor says why a save that the file system refuses went wrong. -/
theorem save_of_write_error {e : FsError}
    (h : s.fs.write editor.dir editor.file editor.buffer = .error e) :
    s.save editor =
      ⟨[.error ("nano: " ++ e.message)],
        { s with
          mode := .editing { editor with status := some e.message }
          log := s.log ++ [.error ("nano: " ++ e.message)] },
        []⟩ := by
  rw [save, h]

/-- Whatever was done while the editor was open, a save succeeds exactly if its directory is there.
Then the file has the buffer for its content and nothing else in the file system has changed;
otherwise nothing in it has changed. The editor stays open on the same file with the same buffer,
and its one line is all that joins the log. -/
theorem save_decided (settings : Settings) (actions : List Action) {editor : Editor}
    (hmode : (after settings actions).mode = .editing editor) :
    let s := after settings actions
    let done := s.editorCommand .save
    (∃ fs status, done.state =
      { s with
        fs
        mode := .editing { editor with status }
        log := s.log ++ done.value }) ∧
    ((∃ text, done.value = [.success text]) ↔ s.fs.contains editor.dir = true) ∧
    (s.fs.contains editor.dir = true →
      done.value = [.success ("File '" ++ editor.file ++ "' saved")] ∧
        s.fs.Upserts editor.dir editor.file editor.buffer done.state.fs) ∧
    (s.fs.contains editor.dir = false →
      done.value =
          [.error ("nano: " ++ (FsError.notFound (Path.display editor.dir)).message)] ∧
        done.state.fs = s.fs) := by
  intro s done
  have hstanding : Standing s := .after settings actions
  have hdone : done = s.save editor := by
    have hediting : s.mode = .editing editor := hmode
    simp only [done, editorCommand, hediting]
  rw [hdone]
  cases hdir : s.fs.directory? editor.dir with
  | some dir =>
    have hwritten := FileSystem.write_of_some hdir editor.file editor.buffer
    have hthere : s.fs.contains editor.dir = true :=
      FileSystem.contains_eq_true_iff.2 ⟨dir, hdir⟩
    rw [save_of_write hwritten, hthere]
    refine ⟨⟨_, _, rfl⟩, iff_of_true ⟨_, rfl⟩ rfl, ?_, ?_⟩
    · intro _
      exact ⟨rfl, hstanding.tree.upserts hwritten⟩
    · intro hmissing
      cases hmissing
  | none =>
    have hrefused := FileSystem.write_of_none hdir editor.file editor.buffer
    have hmissing : s.fs.contains editor.dir = false :=
      FileSystem.contains_eq_false_iff.2 hdir
    rw [save_of_write_error hrefused, hmissing]
    refine ⟨⟨_, _, rfl⟩, iff_of_false ?_ Bool.false_ne_true, ?_, ?_⟩
    · rintro ⟨text, htext⟩
      cases htext
    · intro hthere
      cases hthere
    · intro _
      exact ⟨rfl, rfl⟩

/-- The directory of the open editor is removed, file and all, and then made anew: a save fails in
between and makes the file anew afterwards, while the session stands in the root. -/
theorem save_decided_behind :
    let removal : List Action :=
      [.submit "mkdir docs", .submit "cd docs", .submit "nano notes", .editorInput "kept",
        .execute (.rm "notes"), .execute (.cd ⟨"/"⟩), .execute (.rmdir ⟨"docs"⟩)]
    let anew := removal ++ [.execute (.mkdir ["docs"])]
    let editor : Editor := ⟨"/docs/", "notes", "kept", none⟩
    ((after .standard removal).mode = .editing editor ∧
      (after .standard removal).fs.contains "/docs/" = false ∧
      ((after .standard removal).editorCommand .save).value =
        [.error "nano: /docs: No such file or directory"]) ∧
    ((after .standard anew).mode = .editing editor ∧
      (after .standard anew).fs.contains "/docs/" = true ∧
      ((after .standard anew).editorCommand .save).state.fs.content "/docs/" "notes" =
        .ok "kept") := by
  intro removal anew editor
  have hmode : (after .standard removal).mode = .editing editor := by decide +kernel
  have hmissing : (after .standard removal).fs.contains "/docs/" = false := by decide +kernel
  have hmode' : (after .standard anew).mode = .editing editor := by decide +kernel
  have hthere : (after .standard anew).fs.contains "/docs/" = true := by decide +kernel
  obtain ⟨-, -, -, hfailed⟩ := save_decided .standard removal hmode
  obtain ⟨-, -, hsaved, -⟩ := save_decided .standard anew hmode'
  exact ⟨⟨hmode, hmissing, (hfailed hmissing).1.trans (by decide +kernel)⟩,
    hmode', hthere, (hsaved hthere).2.content⟩

end Session

end MemShell
