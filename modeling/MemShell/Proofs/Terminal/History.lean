import Mathlib.Data.List.Destutter
import Mathlib.Data.List.DropRight
import MemShell.Proofs.Terminal.Action

/-!
# The history as a window

The history drops its oldest entry when it is full and compares a new line with its newest entry
only. Still it is the end of what would be kept without a limit, `distinct` of the lines that were
submitted (`entries_after`). Both grow at the end by the same rule, `distinct_append_singleton` and
`push_rtake`, because the limit always leaves the newest entry to compare with.
-/

namespace MemShell

namespace History

/-- What would be kept of the submitted lines without a limit: the trimmed lines that are not blank,
each only once where it comes several times in a row. -/
def distinct (lines : List String) : List String :=
  ((lines.map Text.trim).filter (· ≠ "")).destutter (· ≠ ·)

/-- A blank line does not keep equal ones apart. -/
example : distinct [" ls", "ls ", "  ", "ls", "pwd", "ls"] = ["ls", "pwd", "ls"] := by decide

/-! ## Growing at the end -/

theorem destutter'_append_singleton (first line : String) (lines : List String) :
    (lines ++ [line]).destutter' (· ≠ ·) first =
      if (lines.destutter' (· ≠ ·) first).getLast? = some line then
        lines.destutter' (· ≠ ·) first
      else lines.destutter' (· ≠ ·) first ++ [line] := by
  induction lines generalizing first with
  | nil =>
    by_cases hline : first = line
    · simp [hline]
    · simp [hline]
  | cons next lines ih =>
    by_cases hnext : first = next
    · subst hnext
      simpa using ih first
    · have hkept : lines.destutter' (· ≠ ·) next ≠ [] := List.destutter'_ne_nil lines (· ≠ ·)
      rw [List.cons_append, List.destutter'_cons_pos _ hnext, List.destutter'_cons_pos _ hnext, ih,
        List.getLast?_cons_of_ne_nil hkept]
      split
      · rfl
      · rfl

/-- Only the last line that was kept decides whether another one is. -/
theorem destutter_append_singleton (lines : List String) (line : String) :
    (lines ++ [line]).destutter (· ≠ ·) =
      if (lines.destutter (· ≠ ·)).getLast? = some line then lines.destutter (· ≠ ·)
      else lines.destutter (· ≠ ·) ++ [line] := by
  cases lines with
  | nil => simp
  | cons first lines => exact destutter'_append_singleton first line lines

theorem distinct_append_singleton (lines : List String) (line : String) :
    distinct (lines ++ [line]) =
      if Text.trim line = "" then distinct lines
      else if (distinct lines).getLast? = some (Text.trim line) then distinct lines
      else distinct lines ++ [Text.trim line] := by
  unfold distinct
  rw [List.map_append, List.filter_append]
  by_cases hblank : Text.trim line = ""
  · simp [hblank]
  · rw [if_neg hblank, ← destutter_append_singleton]
    simp [hblank]

/-! ## The window -/

theorem getLast?_rtake_limit (lines : List String) :
    (lines.rtake limit).getLast? = lines.getLast? := by
  cases lines with
  | nil => rfl
  | cons line lines =>
    have hlimit : 0 < limit := by decide
    rw [List.rtake, List.getLast?_drop, if_neg]
    rw [List.length_cons]
    omega

/-- A line joins the window as it joins the whole. -/
theorem push_rtake (lines : List String) (line : String) :
    push (lines.rtake limit) line =
      (if lines.getLast? = some line then lines else lines ++ [line]).rtake limit := by
  unfold push
  rw [getLast?_rtake_limit]
  split
  · rfl
  · -- The window with the line is the end of the whole with the line, by at most one too long.
    have hlonger : lines.rtake limit ++ [line] = (lines ++ [line]).drop (lines.length - limit) :=
      (List.drop_append_of_le_length (Nat.sub_le ..)).symm
    have hlength : (lines ++ [line]).length = lines.length + 1 := by simp
    dsimp only
    rw [hlonger, List.tail_drop, List.length_drop, hlength, List.rtake, hlength]
    by_cases hfull : limit ≤ lines.length
    · have hnext : lines.length + 1 - limit = lines.length - limit + 1 := by omega
      rw [if_pos (by omega), hnext]
    · have hnext : lines.length + 1 - limit = lines.length - limit := by omega
      rw [if_neg (by omega), hnext]

/-- Whatever the position is, the entries of the window with one more line are the next window. -/
theorem entries_record (lines : List String) (line : String) :
    (if Text.trim line = "" then (distinct lines).rtake limit
      else push ((distinct lines).rtake limit) (Text.trim line)) =
      (distinct (lines ++ [line])).rtake limit := by
  rw [distinct_append_singleton, push_rtake]
  by_cases hblank : Text.trim line = ""
  · rw [if_pos hblank, if_pos hblank]
  · rw [if_neg hblank, if_neg hblank]

end History

namespace Terminal

open History

theorem entries_run (t : Terminal) (earlier : List String)
    (h : t.history.entries = (distinct earlier).rtake limit) (actions : List Action) :
    (Run.state act t actions).history.entries =
      (distinct (earlier ++ actions.filterMap Action.line?)).rtake limit := by
  -- The terminal may stand anywhere, so the lines submitted so far grow along the induction.
  induction actions generalizing t earlier with
  | nil => simpa using h
  | cons action actions ih =>
    rw [Run.state_cons]
    cases hline : action.line? with
    | none =>
      rw [List.filterMap_cons_none hline]
      apply ih
      simp only [entries_act, hline, h]
    | some line =>
      rw [List.filterMap_cons_some hline, List.append_cons]
      apply ih
      simp only [entries_act, hline, record, h]
      exact entries_record earlier line

/-- After any actions the history is the last hundred of the distinct lines. So it never holds more,
no entry is followed by an equal one, and the entries stand in the order of their submission. -/
theorem entries_after (settings : Settings) (actions : List Action) :
    let lines := actions.filterMap Action.line?
    let entries := (after settings actions).history.entries
    entries = (distinct lines).rtake 100 ∧ entries.length ≤ 100 ∧ entries.IsChain (· ≠ ·) ∧
      entries.Sublist (lines.map Text.trim) := by
  intro lines entries
  have hentries : entries = (distinct lines).rtake 100 :=
    entries_run (start settings).state [] rfl actions
  have hsuffix : entries.IsSuffix (distinct lines) := by
    rw [hentries]
    exact List.drop_suffix ..
  have hchain : (distinct lines).IsChain (· ≠ ·) := List.isChain_destutter ..
  have hsublist : (distinct lines).Sublist (lines.map Text.trim) :=
    (List.destutter_sublist ..).trans List.filter_sublist
  refine ⟨hentries, ?_, ?_, hsuffix.sublist.trans hsublist⟩
  · rw [hentries, List.rtake, List.length_drop]
    omega
  · exact hchain.suffix hsuffix

end Terminal

end MemShell
