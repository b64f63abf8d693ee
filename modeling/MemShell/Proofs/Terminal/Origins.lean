import MemShell.Proofs.Terminal.Recall

/-!
# Where the entries come from

An entry of the history is trimmed, while the session was given the line as it was typed. The lines
that the entries were made from, blanks and all, are the `origins` (`entries_eq_origins`). At the
prompt the blanks around a line do not show: submitting an entry is submitting its origin
(`submit_trim`), and it does not matter at which entry the user stands (`submit_of_entries`). The
entry that is submitted is found by steps back, and each of them leads to a line as long as there
are entries at all (`Positioned.recalls_older`).
-/

namespace MemShell

namespace History

/-- What would be kept without a limit, as it was typed. Of lines in a row that trim alike it is the
first one. -/
def typed (lines : List String) : List String :=
  (lines.filter (Text.trim · ≠ "")).destutter fun line next => Text.trim line ≠ Text.trim next

/-- The lines that the entries were made from, as they were typed. -/
def origins (lines : List String) : List String := (typed lines).rtake limit

theorem map_trim_typed (lines : List String) : (typed lines).map Text.trim = distinct lines := by
  have hkept : (typed lines).map Text.trim =
      ((lines.filter (Text.trim · ≠ "")).map Text.trim).destutter (· ≠ ·) :=
    List.map_destutter fun _ _ _ _ => Iff.rfl
  rw [hkept, distinct, List.filter_map]
  rfl

theorem map_trim_origins (lines : List String) :
    (origins lines).map Text.trim = (distinct lines).rtake limit := by
  rw [origins, List.rtake, List.map_drop, map_trim_typed, List.rtake, ← map_trim_typed,
    List.length_map]

theorem recalled_map (f : String → String) (lines : List String) (back : Nat) :
    recalled (lines.map f) back = (recalled lines back).map f := by
  cases back with
  | zero => rfl
  | succ back => rw [recalled, recalled, ← List.map_reverse, List.getElem?_map]

/-! ## Steps back -/

/-- The user stands at an entry, so many steps back among the given ones. -/
structure Recalls (entries : List String) (back : Nat) (history : History) (line : String) :
    Prop where
  entries_eq : history.entries = entries
  positioned : history.Positioned
  back_eq : history.back = back
  recalled_eq : recalled entries back = some line

theorem positioned_of_none {history : History} (h : history.position = none) :
    history.Positioned := by
  rw [Positioned, h]
  exact isPosition_none

theorem back_of_none {history : History} (h : history.position = none) : history.back = 0 := by
  rw [back, h]
  rfl

/-- One more step back leads to a line, to the same one from the oldest. -/
theorem Positioned.recalls_older {history : History} (h : history.Positioned)
    (hentries : history.entries ≠ []) :
    ∃ older line, history.step (-1) = (older, some line) ∧
      Recalls history.entries (min (history.back + 1) history.entries.length) older line := by
  have hcount : 0 < history.entries.length := List.length_pos_iff.2 hentries
  have hback : (history.step (-1)).1.back =
      min (history.back + 1) history.entries.length := by
    rw [h.back_step, clamped, if_pos (by decide)]
  have hanswer := h.step_answer (-1)
  rw [hback] at hanswer
  have hsome : recalled history.entries
      (min (history.back + 1) history.entries.length) ≠ none := by
    rw [Ne, recalled_eq_none_iff (Nat.min_le_right ..)]
    omega
  obtain ⟨line, hline⟩ := Option.ne_none_iff_exists'.1 hsome
  refine ⟨(history.step (-1)).1, line, ?_, Terminal.entries_step .., h.step (-1), hback, hline⟩
  exact Prod.ext rfl (hanswer.trans hline)

end History

namespace Terminal

open History

theorem entries_eq_origins (settings : Settings) (actions : List Action) :
    (after settings actions).history.entries =
      (origins (actions.filterMap Action.line?)).map Text.trim := by
  rw [map_trim_origins]
  exact entries_run (start settings).state [] rfl actions

/-- A line that is submitted ends the stepping, so it does not matter how far it went. -/
theorem submit_of_entries {t : Terminal} {history : History}
    (h : history.entries = t.history.entries) (line : String) :
    { t with history }.submit line = t.submit line := by
  rw [submit, submit, record, record, h]

/-- At the prompt the blanks around a line show neither in what it does nor in the history. -/
theorem submit_trim {t : Terminal} (hmode : t.session.mode = .prompting) (line : String) :
    t.submit (Text.trim line) = t.submit line := by
  rw [submit, submit, Session.submit_trim hmode, Text.trim_trim]

end Terminal

end MemShell
