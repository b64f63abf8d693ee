import MemShell.Proofs.Session.Operations
import MemShell.Proofs.Session.Places

/-!
# Desktop folders and `mkdir`

The desktop makes its folders without moving the session, a user at the prompt goes to their
directory, calls `mkdir` and goes back. Both carry out the same operation on the file system
(`act_createFolder_state`, `submit_mkdir`), and the way there and back leaves no trace but in the
log, since what is shown of a directory leads back to it. So the two do the same, accepted or
refused (`createFolder_eq_mkdir`).
-/

namespace MemShell.Session

open FileSystem (perform)

variable {s : Session} {name : String}

/-- Making a folder is the one operation and nothing else. -/
theorem act_createFolder_state (s : Session) (name : String) :
    (s.act (.createFolder name)).state =
      { s with fs := (s.fs.perform (.makeDirectory Path.home name)).state } := by
  obtain ⟨fs, hmade⟩ := s.act_createFolder name
  have hfs := s.fs_act (.createFolder name)
  rw [hmade] at hfs ⊢
  exact congrArg (fun fs => { s with fs }) hfs

theorem createFolder_of_ok {folder : Outcome FileSystem String}
    (h : s.fs.makeDirectory Path.home name = .ok folder) :
    ∃ made, s.createFolder name = .ok made := by
  rw [createFolder, h]
  exact ⟨_, rfl⟩

theorem createFolder_of_error {e : FsError} (h : s.fs.makeDirectory Path.home name = .error e) :
    s.createFolder name = .error e := by
  rw [createFolder, h]

/-- `mkdir` with one name is the one operation, and its line says how it went. -/
theorem submit_mkdir (hmode : s.mode = .prompting) (hname : Text.IsWord name) :
    (s.submit ("mkdir " ++ name)).value =
        .ofLines [mkdirLine name ((s.fs.makeDirectory s.cwd name).map (·.value))] ∧
      ∃ log, (s.submit ("mkdir " ++ name)).state =
        { s with fs := (s.fs.perform (.makeDirectory s.cwd name)).state, log } := by
  have hexecute : ∃ events, s.execute (.mkdir [name]) =
      ⟨.ofLines [mkdirLine name ((s.fs.makeDirectory s.cwd name).map (·.value))],
        { s with fs := (s.fs.perform (.makeDirectory s.cwd name)).state }, events⟩ := by
    rw [execute, attempt, executeMkdir, FileSystem.makeDirectories, perform]
    cases s.fs.makeDirectory s.cwd name with
    | ok made => exact ⟨_, rfl⟩
    | error e => exact ⟨_, rfl⟩
  obtain ⟨events, hexecute⟩ := hexecute
  exact @submit_call s "mkdir" name _ _ hmode (by decide) hname rfl hexecute

/-- Nothing is made where there is no directory, or under a name that is no word. -/
theorem makeDirectory_refused {fs : FileSystem} {parent : String}
    (h : fs.contains parent = false ∨ ¬ Text.IsWord name) :
    ∃ e, fs.makeDirectory parent name = .error e := by
  cases hmade : fs.makeDirectory parent name with
  | error e => exact ⟨e, rfl⟩
  | ok made =>
    obtain ⟨hname, -, dir, hdir, -⟩ := FileSystem.makeDirectory_ok hmade
    rcases h with hmissing | hword
    · rw [FileSystem.contains_eq_false_iff, hdir] at hmissing
      cases hmissing
    · exact absurd (FileSystem.ValidName.isWord hname) hword

/-! ## There and back -/

theorem contains_perform_makeDirectory {fs : FileSystem} {parent path : String}
    (h : fs.contains path = true) :
    (fs.perform (.makeDirectory parent name)).state.contains path = true := by
  rw [perform]
  cases hmade : fs.makeDirectory parent name with
  | ok made => exact FileSystem.contains_makeDirectory hmade h
  | error e => exact h

/-- Going to the directory of the folders, calling `mkdir` there and going back makes the directory
of the desktop folder; besides that only the log changes. -/
theorem submit_there_and_back (h : Standing s) (hmode : s.mode = .prompting)
    (hhome : s.fs.contains Path.home = true) (hname : Text.IsWord name) :
    let there := (s.submit "cd /home").state
    let typed := there.submit ("mkdir " ++ name)
    let back := (typed.state.submit ("cd " ++ Path.display s.cwd)).state
    there.fs.makeDirectory there.cwd name = s.fs.makeDirectory Path.home name ∧
      typed.value.output =
        [mkdirLine name ((s.fs.makeDirectory Path.home name).map (·.value))] ∧
      ∃ log, back =
        { s with fs := (s.fs.perform (.makeDirectory Path.home name)).state, log } := by
  intro there typed back
  have hline : "cd " ++ Path.display Path.home = "cd /home" := by decide
  obtain ⟨-, arrived, hthere⟩ := submit_cd_display h hmode hhome
  rw [hline] at hthere
  have hthere : there = { s with cwd := Path.home, log := arrived } := hthere
  have hprompt : there.mode = .prompting := by rw [hthere]; exact hmode
  have hmake : there.fs.makeDirectory there.cwd name = s.fs.makeDirectory Path.home name := by
    rw [hthere]
  have hperform : there.fs.perform (.makeDirectory there.cwd name) =
      s.fs.perform (.makeDirectory Path.home name) := by
    rw [hthere]
  obtain ⟨hvalue, made, htyped⟩ := submit_mkdir hprompt hname
  rw [hperform] at htyped
  rw [hmake] at hvalue
  have htyped : typed.state =
      { there with fs := (s.fs.perform (.makeDirectory Path.home name)).state, log := made } :=
    htyped
  have hstanding : Standing typed.state := (h.submit "cd /home").submit ("mkdir " ++ name)
  have hcwd : typed.state.fs.contains s.cwd = true := by
    rw [htyped]
    exact contains_perform_makeDirectory h.cwd
  have hprompt : typed.state.mode = .prompting := by rw [htyped]; exact hprompt
  obtain ⟨-, left, hback⟩ := submit_cd_display hstanding hprompt hcwd
  refine ⟨hmake, congrArg Reply.output hvalue, left, ?_⟩
  have hback : back = { typed.state with cwd := s.cwd, log := left } := hback
  rw [hback, htyped, hthere]

/-- At the prompt, making a desktop folder and making a directory by going to `/home`, calling
`mkdir` and going back lead to the same file system and the same current directory, and one succeeds
exactly if the other does, with the same error if not. Without a `/home`, or with a name that is
empty or holds a blank, no folder is made and nothing changes. -/
theorem createFolder_eq_mkdir (settings : Settings) (actions : List Action)
    (hmode : (after settings actions).mode = .prompting) (name : String) :
    let s := after settings actions
    let made := (s.act (.createFolder name)).state
    (s.fs.contains Path.home = true → Text.IsWord name →
      let there := (s.submit "cd /home").state
      let typed := there.submit ("mkdir " ++ name)
      let back := (typed.state.submit ("cd " ++ Path.display s.cwd)).state
      back.fs = made.fs ∧ back.cwd = made.cwd ∧
        ((∃ done, s.createFolder name = .ok done) ↔
          typed.value.output = [.success ("Directory '" ++ name ++ "' created")]) ∧
        ∀ e, s.createFolder name = .error e →
          there.fs.makeDirectory there.cwd name = .error e ∧
            typed.value.output = [.error ("mkdir: " ++ e.message)]) ∧
    ((s.fs.contains Path.home = false ∨ name = "" ∨ ∃ c ∈ name.toList, Text.isBlank c = true) →
      (∃ e, s.createFolder name = .error e) ∧ made = s) := by
  intro s made
  have hstanding : Standing s := .after settings actions
  have hmade : made = { s with fs := (s.fs.perform (.makeDirectory Path.home name)).state } :=
    act_createFolder_state s name
  constructor
  · intro hhome hname there typed back
    obtain ⟨hmake, houtput, log, hback⟩ := submit_there_and_back hstanding hmode hhome hname
    have hfs := congrArg Session.fs hback
    have hcwd := congrArg Session.cwd hback
    refine ⟨by rw [hmade]; exact hfs, by rw [hmade]; exact hcwd, ?_⟩
    rw [hmake, houtput]
    cases hresult : s.fs.makeDirectory Path.home name with
    | ok folder =>
      obtain ⟨done, hdone⟩ := createFolder_of_ok hresult
      refine ⟨iff_of_true ⟨done, hdone⟩ rfl, fun e he => ?_⟩
      rw [hdone] at he
      cases he
    | error refusal =>
      have hrefused := createFolder_of_error hresult
      rw [hrefused]
      refine ⟨iff_of_false ?_ (by simp [mkdirLine, Except.map]), fun e he => ?_⟩
      · rintro ⟨done, hdone⟩
        cases hdone
      · cases he
        exact ⟨rfl, rfl⟩
  · intro hbad
    have hbad : s.fs.contains Path.home = false ∨ ¬ Text.IsWord name := by
      refine hbad.imp_right fun hname hword => ?_
      rcases hname with hempty | ⟨c, hc, hblank⟩
      · exact hword.ne_empty hempty
      · rw [hword.not_blank c hc] at hblank
        cases hblank
    obtain ⟨e, he⟩ := makeDirectory_refused hbad
    refine ⟨⟨e, createFolder_of_error he⟩, ?_⟩
    rw [hmade, perform, he]
    rfl

/-- The folder `music` made in `/home` from two directories down in `/var`, and a folder that is
refused there because of the blank in its name. -/
theorem createFolder_eq_mkdir_music :
    let actions : List Action := [.submit "cd /var", .submit "mkdir log", .submit "cd log"]
    let there := ((after .standard actions).submit "cd /home").state
    let typed := there.submit ("mkdir " ++ "music")
    let back := (typed.state.submit ("cd " ++ Path.display (after .standard actions).cwd)).state
    (after .standard actions).mode = .prompting ∧
      (after .standard actions).fs.contains Path.home = true ∧ Text.IsWord "music" ∧
      back.fs = ((after .standard actions).act (.createFolder "music")).state.fs ∧
      back.cwd = ((after .standard actions).act (.createFolder "music")).state.cwd ∧
      (∃ c ∈ "new album".toList, Text.isBlank c = true) ∧
      ∃ e, (after .standard actions).createFolder "new album" = .error e := by
  intro actions there typed back
  have hmode : (after .standard actions).mode = .prompting := by decide +kernel
  have hhome : (after .standard actions).fs.contains Path.home = true := by decide +kernel
  have hword : Text.IsWord "music" := by decide
  have hblank : ∃ c ∈ "new album".toList, Text.isBlank c = true := ⟨' ', by decide, by decide⟩
  have hmusic := (createFolder_eq_mkdir .standard actions hmode "music").1 hhome hword
  have halbum := (createFolder_eq_mkdir .standard actions hmode "new album").2 (.inr (.inr hblank))
  exact ⟨hmode, hhome, hword, hmusic.1, hmusic.2.1, hblank, halbum.1⟩

end MemShell.Session
