import MemShell.Proofs.Path.Display
import MemShell.Proofs.Session.Standing

/-!
# Places that can be gone to

The prompt and `pwd` show a directory in its display form, and that form can be typed back. In a
tree the names of directories are words, so the display form of a directory is one argument, and
it resolves to the directory wherever the session stands. So `cd` reaches every directory by what is
shown of it and says nothing, and any other argument that it is given leads to a directory that is
there or is refused (`cd_display`).
-/

namespace MemShell

namespace FileSystem

/-- A name is made of visible ASCII. -/
theorem toNat_of_isNameChar {c : Char} (h : isNameChar c = true) :
    0x20 < c.toNat ∧ c.toNat < 0x80 := by
  rw [isNameChar, Bool.or_eq_true, Bool.or_eq_true, beq_iff_eq, beq_iff_eq] at h
  rcases h with (halphanum | rfl) | rfl
  · have halphanum : (c.isUpper || c.isLower || c.isDigit) = true := halphanum
    rw [Bool.or_eq_true, Bool.or_eq_true] at halphanum
    rcases halphanum with (hupper | hlower) | hdigit
    · have hupper : 65 ≤ c.toNat ∧ c.toNat ≤ 90 := of_decide_eq_true hupper
      omega
    · have hlower : (decide (97 ≤ c.toNat) && decide (c.toNat ≤ 122)) = true := hlower
      rw [Bool.and_eq_true, decide_eq_true_eq, decide_eq_true_eq] at hlower
      omega
    · have hdigit : (decide (48 ≤ c.toNat) && decide (c.toNat ≤ 57)) = true := hdigit
      rw [Bool.and_eq_true, decide_eq_true_eq, decide_eq_true_eq] at hdigit
      omega
  · decide
  · decide

theorem isBlank_of_isNameChar {c : Char} (h : isNameChar c = true) : Text.isBlank c = false := by
  have hrange := toNat_of_isNameChar h
  have hblank : ¬ Text.isBlank c = true := by
    simp only [Text.isBlank, Bool.or_eq_true, Bool.and_eq_true, decide_eq_true_eq, beq_iff_eq]
    omega
  exact Bool.of_not_eq_true hblank

/-- What a directory can be called is a word. -/
theorem ValidName.isWord {name : String} (h : ValidName name) : Text.IsWord name := by
  refine ⟨h.isSegment.1, fun c hc => isBlank_of_isNameChar ?_⟩
  simp only [ValidName, isValidName, Bool.and_eq_true, List.all_eq_true] at h
  exact h.2 c hc

namespace TreeShaped

variable {fs : FileSystem} {path : String}

theorem isWord_display (h : TreeShaped ValidName fs) (hpath : fs.contains path = true) :
    Text.IsWord (Path.display path) := by
  obtain ⟨dir, hdir⟩ := contains_eq_true_iff.1 hpath
  exact Path.isWord_display (fun _ => ValidName.isWord) (fun _ => ValidName.isSegment)
    (h.fits hdir).canonical

theorem resolve_display (h : TreeShaped ValidName fs) (hpath : fs.contains path = true)
    (base : String) : Path.resolve base (Path.display path) = path := by
  obtain ⟨dir, hdir⟩ := contains_eq_true_iff.1 hpath
  exact Path.resolve_display ((h.fits hdir).canonical.mono fun _ => ValidName.isName) base

end TreeShaped

end FileSystem

namespace Session

variable {s : Session} {arg path : String}

/-! ## Single steps -/

theorem submit_cd (hmode : s.mode = .prompting) (harg : Text.IsWord arg)
    (hthere : s.fs.contains (Path.resolve s.cwd arg) = true) :
    (s.submit ("cd " ++ arg)).value = .empty ∧
      ∃ log, (s.submit ("cd " ++ arg)).state = { s with cwd := Path.resolve s.cwd arg, log } := by
  have hexecute : s.execute (.cd ⟨arg⟩) =
      ⟨.empty, { s with cwd := Path.resolve s.cwd arg },
        [.changedDirectory s.cwd (Path.resolve s.cwd arg)]⟩ := by
    simp only [execute, attempt, executeCd, PathArg.resolve, hthere, ↓reduceIte]
  exact @submit_call s "cd" arg _ _ hmode (by decide) harg rfl hexecute

theorem submit_cd_of_missing (hmode : s.mode = .prompting) (harg : Text.IsWord arg)
    (hmissing : s.fs.contains (Path.resolve s.cwd arg) = false) :
    (s.submit ("cd " ++ arg)).value =
        .ofLines [.error ("cd: " ++ (arg ++ ": No such file or directory"))] ∧
      ∃ log, (s.submit ("cd " ++ arg)).state = { s with log } := by
  have hexecute : s.execute (.cd ⟨arg⟩) =
      s.answer [.error ("cd: " ++ (arg ++ ": No such file or directory"))] := by
    simp only [execute, attempt, executeCd, PathArg.resolve, hmissing, Bool.false_eq_true,
      ↓reduceIte]
    rfl
  exact @submit_call s "cd" arg _ _ hmode (by decide) harg rfl hexecute

theorem submit_pwd (hmode : s.mode = .prompting) :
    (s.submit "pwd").value = .ofLines [.text (Path.display s.cwd)] := by
  have hwords : Text.words "pwd" = ["pwd"] := by decide
  exact (submit_of_words hmode hwords rfl).1

/-- What is shown of a directory leads to it. -/
theorem submit_cd_display (h : Standing s) (hmode : s.mode = .prompting)
    (hpath : s.fs.contains path = true) :
    (s.submit ("cd " ++ Path.display path)).value = .empty ∧
      ∃ log, (s.submit ("cd " ++ Path.display path)).state = { s with cwd := path, log } := by
  have hresolve := h.tree.resolve_display hpath s.cwd
  have hcd := submit_cd hmode (h.tree.isWord_display hpath) (hresolve.symm ▸ hpath)
  rwa [hresolve] at hcd

/-! ## From every place to every place -/

/-- From wherever a session stands, `cd` with what is shown of a directory says nothing, goes to
exactly that directory and changes nothing else, and `pwd` shows the same there; so what `pwd`
prints in one place leads back from everywhere as long as the place is there. With any other
argument `cd` goes to a directory that is there or says that there is none and stays. -/
theorem cd_display (settings : Settings) (actions : List Action)
    (hmode : (after settings actions).mode = .prompting) :
    let s := after settings actions
    (∀ path, s.fs.contains path = true →
      let moved := s.submit ("cd " ++ Path.display path)
      moved.value = .empty ∧ (∃ log, moved.state = { s with cwd := path, log }) ∧
        (moved.state.submit "pwd").value = .ofLines [.text (Path.display path)]) ∧
    (∃ shown, (s.submit "pwd").value = .ofLines [.text shown] ∧
      ∀ more,
        let later := after settings (actions ++ more)
        later.mode = .prompting → later.fs.contains s.cwd = true →
          (later.submit ("cd " ++ shown)).value = .empty ∧
            (later.submit ("cd " ++ shown)).state.cwd = s.cwd) ∧
    ∀ arg, Text.IsWord arg →
      let done := s.submit ("cd " ++ arg)
      (s.fs.contains (Path.resolve s.cwd arg) = true ∧ done.value = .empty ∧
        done.state.cwd = Path.resolve s.cwd arg ∧ done.state.fs.contains done.state.cwd = true) ∨
      (s.fs.contains (Path.resolve s.cwd arg) = false ∧
        done.value = .ofLines [.error ("cd: " ++ (arg ++ ": No such file or directory"))] ∧
        done.state.cwd = s.cwd) := by
  intro s
  have hstanding : Standing s := .after settings actions
  refine ⟨fun path hpath => ?_, ⟨Path.display s.cwd, submit_pwd hmode, ?_⟩, fun arg harg => ?_⟩
  · obtain ⟨hvalue, log, hstate⟩ := submit_cd_display hstanding hmode hpath
    refine ⟨hvalue, ⟨log, hstate⟩, ?_⟩
    rw [hstate]
    exact submit_pwd hmode
  · intro more later hlater hthere
    obtain ⟨hvalue, log, hstate⟩ :=
      submit_cd_display (Standing.after settings (actions ++ more)) hlater hthere
    have hcwd := congrArg Session.cwd hstate
    exact ⟨hvalue, hcwd⟩
  · intro done
    cases hthere : s.fs.contains (Path.resolve s.cwd arg) with
    | true =>
      obtain ⟨hvalue, log, hstate⟩ := submit_cd hmode harg hthere
      have hcwd := congrArg Session.cwd hstate
      have hfs := congrArg Session.fs hstate
      refine .inl ⟨rfl, hvalue, hcwd, ?_⟩
      rw [hcwd, hfs]
      exact hthere
    | false =>
      obtain ⟨hvalue, log, hstate⟩ := submit_cd_of_missing hmode harg hthere
      have hcwd := congrArg Session.cwd hstate
      exact .inr ⟨rfl, hvalue, hcwd⟩

/-- From `/var` down two directories, back to `/var` after more was made and entered, and to a place
that is not there. -/
theorem cd_display_music :
    let actions : List Action :=
      [.submit "mkdir docs", .submit "cd docs", .submit "mkdir music", .submit "cd /var"]
    let more : List Action := [.submit "mkdir log", .submit "cd log", .submit "rmdir /bin"]
    ((after .standard actions).mode = .prompting ∧
      (after .standard actions).fs.contains "/docs/music/" = true ∧
      ((after .standard actions).submit ("cd " ++ Path.display "/docs/music/")).value = .empty) ∧
    ((after .standard (actions ++ more)).mode = .prompting ∧
      (after .standard (actions ++ more)).fs.contains (after .standard actions).cwd = true ∧
      ∃ shown, ((after .standard actions).submit "pwd").value = .ofLines [.text shown] ∧
        ((after .standard (actions ++ more)).submit ("cd " ++ shown)).state.cwd =
          (after .standard actions).cwd) ∧
    (Text.IsWord "../nowhere" ∧
      ((after .standard actions).submit ("cd " ++ "../nowhere")).state.cwd =
        (after .standard actions).cwd) := by
  intro actions more
  have hmode : (after .standard actions).mode = .prompting := by decide +kernel
  have hlater : (after .standard (actions ++ more)).mode = .prompting := by decide +kernel
  have hthere : (after .standard actions).fs.contains "/docs/music/" = true := by decide +kernel
  have hkept : (after .standard (actions ++ more)).fs.contains (after .standard actions).cwd =
      true := by
    decide +kernel
  have hword : Text.IsWord "../nowhere" := by decide
  have hmissing : (after .standard actions).fs.contains
      (Path.resolve (after .standard actions).cwd "../nowhere") = false := by
    decide +kernel
  obtain ⟨hreach, ⟨shown, hshown, hback⟩, hargs⟩ := cd_display .standard actions hmode
  have hstayed := (hargs "../nowhere" hword).resolve_left fun h =>
    absurd (hmissing.symm.trans h.1) Bool.false_ne_true
  exact ⟨⟨hmode, hthere, (hreach "/docs/music/" hthere).1⟩,
    ⟨hlater, hkept, shown, hshown, (hback more hlater hkept).2⟩, hword, hstayed.2.2⟩

end Session

end MemShell
