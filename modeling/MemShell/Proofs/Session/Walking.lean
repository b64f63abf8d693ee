import MemShell.Proofs.Path.Resolve
import MemShell.Proofs.Session.Places

/-!
# Walking in two goes

Resolving composes and normalises (`Path.resolve_resolve`, `Path.IsCanonical.resolve`), and `cd`
goes to where its argument is resolved to if there is a directory. So two calls of `cd`, the second
one relative, end where one call ends whose argument is both of theirs with a slash between them
(`cd_composes`). The directory between them has to be there for the second call only.
-/

namespace MemShell.Session

variable {s : Session} {arg : String}

/-- If `cd` says nothing, it has gone to where its argument leads. -/
theorem submit_cd_of_empty (hmode : s.mode = .prompting) (harg : Text.IsWord arg)
    (h : (s.submit ("cd " ++ arg)).value = .empty) :
    s.fs.contains (Path.resolve s.cwd arg) = true ∧
      ∃ log, (s.submit ("cd " ++ arg)).state = { s with cwd := Path.resolve s.cwd arg, log } := by
  cases hthere : s.fs.contains (Path.resolve s.cwd arg) with
  | true => exact ⟨rfl, (submit_cd hmode harg hthere).2⟩
  | false =>
    rw [(submit_cd_of_missing hmode harg hthere).1] at h
    cases h

/-- Resolving a relative target from where another one leads is resolving the two as one. From a
canonical base the result is canonical, and from then on it leads to itself. So if a session goes to
one place and from there to another one, it gets there in one go as well. -/
theorem cd_composes :
    (∀ base target next, target ≠ "" → Path.isAbsolute next = false →
      Path.resolve (Path.resolve base target) next = Path.resolve base (target ++ "/" ++ next)) ∧
    (∀ base target, Path.IsCanonical Path.IsName base →
      Path.IsCanonical Path.IsName (Path.resolve base target) ∧
        ∀ other, Path.resolve other (Path.resolve base target) = Path.resolve base target) ∧
    ∀ settings actions,
      let s := after settings actions
      s.mode = .prompting →
        ∀ target next, Text.IsWord target → Text.IsWord next → Path.isAbsolute next = false →
          let first := s.submit ("cd " ++ target)
          let second := first.state.submit ("cd " ++ next)
          let once := s.submit ("cd " ++ (target ++ "/" ++ next))
          first.value = .empty → second.value = .empty →
            once.value = .empty ∧ once.state.cwd = second.state.cwd := by
  refine ⟨fun base target next htarget hnext => Path.resolve_resolve htarget hnext,
    fun base target hbase => ⟨hbase.resolve target, (hbase.resolve target).resolve_eq⟩, ?_⟩
  intro settings actions s hmode target next htarget hnext hrel first second once hfirst hsecond
  obtain ⟨-, log, (hmoved : first.state = _)⟩ := submit_cd_of_empty hmode htarget hfirst
  have hfs : first.state.fs = s.fs := by rw [hmoved]
  have hcwd : first.state.cwd = Path.resolve s.cwd target := by rw [hmoved]
  have hprompting : first.state.mode = .prompting := by
    rw [hmoved]
    exact hmode
  obtain ⟨hthere, log', (hmovedOn : second.state = _)⟩ :=
    submit_cd_of_empty hprompting hnext hsecond
  have hresolve : Path.resolve first.state.cwd next =
      Path.resolve s.cwd (target ++ "/" ++ next) := by
    rw [hcwd, Path.resolve_resolve htarget.ne_empty hrel]
  rw [hfs, hresolve] at hthere
  have hboth : Text.IsWord (target ++ "/" ++ next) := (htarget.append (by decide)).append hnext
  obtain ⟨hvalue, log'', (honce : once.state = _)⟩ := submit_cd hmode hboth hthere
  refine ⟨hvalue, ?_⟩
  rw [honce, hmovedOn]
  exact hresolve.symm

/-- A target that climbs above the root is joined to another one. From `/home/` two targets lead to
`/var/` and on to a directory below it, in two goes and in one. -/
theorem cd_composes_log :
    let actions : List Action := [.submit "cd var", .submit "mkdir log", .submit "cd ../home"]
    Path.resolve (Path.resolve "/home/" "../../var//") "../bin/." =
        Path.resolve "/home/" ("../../var//" ++ "/" ++ "../bin/.") ∧
      Path.IsCanonical Path.IsName "/home/" ∧
      Path.IsCanonical Path.IsName (Path.resolve "/home/" "../../var//") ∧
      (after .standard actions).mode = .prompting ∧
      ((after .standard actions).submit ("cd " ++ "../../var//")).value = .empty ∧
      (((after .standard actions).submit ("cd " ++ "../../var//")).state.submit
        ("cd " ++ "./log")).value = .empty ∧
      ((after .standard actions).submit ("cd " ++ ("../../var//" ++ "/" ++ "./log"))).value =
        .empty ∧
      ((after .standard actions).submit ("cd " ++ ("../../var//" ++ "/" ++ "./log"))).state.cwd =
        "/var/log/" := by
  intro actions
  obtain ⟨hjoin, hcanonical, hwalk⟩ := cd_composes
  have hhome : Path.IsCanonical Path.IsName "/home/" :=
    ⟨["home"], by simp [Path.IsName, Path.IsSegment], by decide⟩
  have hmode : (after .standard actions).mode = .prompting := by decide +kernel
  have hfirst : ((after .standard actions).submit ("cd " ++ "../../var//")).value = .empty := by
    decide +kernel
  have hsecond : (((after .standard actions).submit ("cd " ++ "../../var//")).state.submit
      ("cd " ++ "./log")).value = .empty := by
    decide +kernel
  have hend : (((after .standard actions).submit ("cd " ++ "../../var//")).state.submit
      ("cd " ++ "./log")).state.cwd = "/var/log/" := by
    decide +kernel
  obtain ⟨hvalue, hcwd⟩ := hwalk .standard actions hmode "../../var//" "./log" (by decide)
    (by decide) (by decide) hfirst hsecond
  exact ⟨hjoin "/home/" "../../var//" "../bin/." (by decide) (by decide), hhome,
    (hcanonical "/home/" "../../var//" hhome).1, hmode, hfirst, hsecond, hvalue, hcwd.trans hend⟩

end MemShell.Session
