import Mathlib.Data.List.ReduceOption
import MemShell.Proofs.Session.View
import MemShell.Transcript

/-!
# Reading as a run

The line-oriented front end is a run of `takeLine` over the lines in front of the first that is not
UTF-8 (`takeLines_state`), and if there is such a line, reading fails there (`takeLines_ending`).
The front end reads once for each of the lines and once more, when it finds none. What every line
preserves holds at all these `reads` (`invariant_reads`).
-/

namespace MemShell.Transcript

/-- The lines that are read: those before the first that is not UTF-8. -/
def readable (lines : List (Option String)) : List String :=
  (lines.takeWhile Option.isSome).reduceOption

/-- The front end at each read. The last read finds no line. -/
def reads (st : State) (lines : List String) : List State :=
  (Run.steps takeLine st lines).map (·.1) ++ [Run.state takeLine st lines]

@[simp] theorem readable_nil : readable [] = [] := rfl

@[simp] theorem readable_none (lines : List (Option String)) : readable (none :: lines) = [] := rfl

@[simp] theorem readable_some (line : String) (lines : List (Option String)) :
    readable (some line :: lines) = line :: readable lines := rfl

theorem readable_map_some (lines : List String) : readable (lines.map some) = lines := by
  induction lines with
  | nil => rfl
  | cons line lines ih => rw [List.map_cons, readable_some, ih]

@[simp] theorem reads_nil (st : State) : reads st [] = [st] := rfl

@[simp] theorem reads_cons (st : State) (line : String) (lines : List String) :
    reads st (line :: lines) = st :: reads (takeLine st line).state lines := rfl

/-! ## Single lines -/

theorem takeLine_of_editing {st : State} {editor : Editor}
    (hmode : st.session.mode = .editing editor) (line : String) :
    takeLine st line = editLine st editor line := by
  rw [takeLine, hmode]

theorem takeLine_of_prompting {st : State} (hmode : st.session.mode = .prompting) (line : String) :
    takeLine st line = commandLine st line := by
  rw [takeLine, hmode]

/-- At the prompt the front end holds what the line leaves. The desktop is left at once. -/
theorem commandLine_session {st : State} (hmode : st.session.mode = .prompting) (line : String) :
    (commandLine st line).state.session =
      (st.session.submit line).state.setView
        (if Session.callsDesktop line then .terminal else st.session.view) := by
  have hview := Session.view_submit hmode line
  simp only [commandLine]
  by_cases hdesktop : Session.callsDesktop line = true
  · rw [if_pos hdesktop] at hview
    simp only [hview, hdesktop, BEq.rfl, ↓reduceIte]
  · rw [if_neg hdesktop] at hview
    have hkept : (st.session.submit line).state.view = st.session.view := by
      rw [Session.submit_view, hview]
      rfl
    rw [hview, if_neg (by simp), if_neg hdesktop, ← hkept]
    rfl

/-! ## Whole runs -/

theorem takeLines_state (st : State) (lines : List (Option String)) :
    (takeLines st lines).state = Run.state takeLine st (readable lines) := by
  fun_induction takeLines st lines with
  | case1 st => rfl
  | case2 st lines => rfl
  | case3 st line lines taken others ih => exact ih

theorem takeLines_ending (st : State) (lines : List (Option String)) :
    (takeLines st lines).value.2 = if none ∈ lines then .undecodable else .closed := by
  fun_induction takeLines st lines with
  | case1 st => rfl
  | case2 st lines => simp
  | case3 st line lines taken others ih => simpa using ih

/-- What every line that is taken preserves holds at every read. -/
theorem invariant_reads {P : State → Prop}
    (hstep : ∀ st line, P st → P (takeLine st line).state) {st : State} (h : P st)
    (lines : List String) : ∀ st' ∈ reads st lines, P st' := by
  induction lines generalizing st with
  | nil => simpa using h
  | cons line lines ih =>
    rw [reads_cons]
    exact List.forall_mem_cons.2 ⟨h, ih (hstep st line h)⟩

end MemShell.Transcript
