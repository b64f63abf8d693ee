import MemShell.Proofs.Terminal.History

/-!
# Recalling lines

A position in the history counts entries from the oldest one, while a user counts from the newest:
one step back for the last line, two for the line before it. Counted that way, `back`, stepping is
a counter that stops at the number of entries and at nought (`Positioned.back_step`), and the line
that is recalled is the one so many steps back (`Positioned.step_answer`). All this is as long as
the position is one of an entry, which steps and submitted lines preserve (`Positioned.step`,
`positioned_record`). So the answers along every run are those of a machine that knows only the
submitted lines and the counter (`recall_counted`).
-/

namespace MemShell

namespace History

/-- How many steps it takes from the end to a position among so many entries. -/
def stepsBack (count : Nat) : Option Nat → Nat
  | none => 0
  | some i => count - i

/-- How many steps back from the end the user stands. -/
def back (history : History) : Nat := stepsBack history.entries.length history.position

/-- One step of a counter between nought and `count`, up for a negative direction. -/
def clamped (count : Nat) (direction : Int) (back : Nat) : Nat :=
  if direction < 0 then min (back + 1) count
  else if 0 < direction then back - 1
  else back

/-- The entry that many steps back, none at the end. -/
def recalled (entries : List String) : Nat → Option String
  | 0 => none
  | back + 1 => entries.reverse[back]?

/-- The position is one of an entry. -/
def IsPosition (count : Nat) (position : Option Nat) : Prop := ∀ i, position = some i → i < count

def Positioned (history : History) : Prop :=
  IsPosition history.entries.length history.position

/-! ## Positions -/

section

variable {count : Nat} {position : Option Nat}

theorem isPosition_none : IsPosition count none := by
  intro i hi
  cases hi

theorem isPosition_some {i : Nat} : IsPosition count (some i) ↔ i < count := by
  simp [IsPosition]

theorem stepsBack_le : stepsBack count position ≤ count := by
  cases position with
  | none => exact Nat.zero_le count
  | some i => exact Nat.sub_le count i

/-- A step leads to an entry or behind the newest one. -/
theorem IsPosition.move (h : IsPosition count position) (hcount : count ≠ 0) (direction : Int) :
    IsPosition count (move count direction position) := by
  cases position with
  | none =>
    rw [History.move]
    split
    · exact isPosition_some.2 (by omega)
    · exact isPosition_none
  | some i =>
    have hi := isPosition_some.1 h
    rw [History.move]
    split
    · split
      · exact isPosition_some.2 (by omega)
      · exact h
    · split
      · split
        · next hnewer => exact isPosition_some.2 hnewer
        · exact isPosition_none
      · exact h

/-- A step of the position is a step of the counter. -/
theorem stepsBack_move (h : IsPosition count position) (direction : Int) :
    stepsBack count (move count direction position) =
      clamped count direction (stepsBack count position) := by
  cases position with
  | none =>
    rw [move, clamped, stepsBack]
    by_cases holder : direction < 0
    · rw [if_pos holder, if_pos holder, stepsBack]
      omega
    · rw [if_neg holder, if_neg holder, stepsBack]
      split
      · rfl
      · rfl
  | some i =>
    have hi := isPosition_some.1 h
    rw [move, clamped, stepsBack]
    by_cases holder : direction < 0
    · rw [if_pos holder, if_pos holder]
      by_cases holdest : 0 < i
      · rw [if_pos holdest, stepsBack]
        omega
      · rw [if_neg holdest, stepsBack]
        omega
    · rw [if_neg holder, if_neg holder]
      by_cases hnewer : 0 < direction
      · rw [if_pos hnewer, if_pos hnewer]
        by_cases hnext : i + 1 < count
        · rw [if_pos hnext, stepsBack]
          omega
        · rw [if_neg hnext, stepsBack]
          omega
      · rw [if_neg hnewer, if_neg hnewer, stepsBack]

/-- Within the entries, only no steps back lead to none. -/
theorem recalled_eq_none_iff {entries : List String} {back : Nat} (h : back ≤ entries.length) :
    recalled entries back = none ↔ back = 0 := by
  cases back with
  | zero => simp [recalled]
  | succ steps =>
    simp only [recalled, List.getElem?_eq_none_iff, List.length_reverse, Nat.add_eq_zero_iff]
    omega

/-- Counted from the newest entry or from the oldest, it is the same entry. -/
theorem IsPosition.recalled_eq {entries : List String} (h : IsPosition entries.length position) :
    recalled entries (stepsBack entries.length position) =
      position.bind fun i => entries[i]? := by
  cases position with
  | none => rfl
  | some i =>
    have hi := isPosition_some.1 h
    obtain ⟨steps, hsteps⟩ := Nat.exists_eq_add_one_of_ne_zero (Nat.sub_ne_zero_of_lt hi)
    have hplace : entries.length - 1 - steps = i := by omega
    rw [stepsBack, hsteps, recalled, List.getElem?_reverse (by omega), hplace, Option.bind_some]

end

/-! ## The history -/

variable {history : History}

theorem step_of_nil (h : history.entries = []) (direction : Int) :
    history.step direction = (history, none) := by
  simp [step, h]

theorem step_of_ne_nil (h : history.entries ≠ []) (direction : Int) :
    history.step direction =
      ({ history with position := move history.entries.length direction history.position },
        (move history.entries.length direction history.position).bind
          fun i => history.entries[i]?) := by
  simp [step, h]

theorem back_of_nil (hnone : history.entries = []) : history.back = 0 := by
  have hle : history.back ≤ history.entries.length := stepsBack_le
  rw [hnone] at hle
  exact Nat.le_zero.1 hle

/-- A submitted line ends the stepping. -/
theorem positioned_record (history : History) (line : String) :
    (history.record line).Positioned :=
  isPosition_none

namespace Positioned

theorem step (h : history.Positioned) (direction : Int) :
    (history.step direction).1.Positioned := by
  by_cases hnone : history.entries = []
  · rw [step_of_nil hnone]
    exact h
  · rw [step_of_ne_nil hnone]
    exact IsPosition.move h (by simpa using hnone) direction

theorem back_step (h : history.Positioned) (direction : Int) :
    (history.step direction).1.back =
      clamped history.entries.length direction history.back := by
  by_cases hnone : history.entries = []
  · rw [step_of_nil hnone, back_of_nil hnone, hnone, clamped]
    simp
  · rw [step_of_ne_nil hnone]
    exact stepsBack_move h direction

/-- What a step answers is the entry that it leads to. -/
theorem step_answer (h : history.Positioned) (direction : Int) :
    (history.step direction).2 =
      recalled history.entries (history.step direction).1.back := by
  by_cases hnone : history.entries = []
  · rw [step_of_nil hnone, back_of_nil hnone]
    rfl
  · have hmoved := IsPosition.move h (by simpa using hnone) direction
    rw [step_of_ne_nil hnone]
    exact hmoved.recalled_eq.symm

end Positioned

end History

namespace Terminal

open History

/-- What a step says, nothing for any other action. -/
def answer (t : Terminal) : Action → Option String
  | .step direction => (t.step direction).2
  | .submit _ | .setView _ | .onSession _ => none

/-- An action with its answer. -/
def respond (t : Terminal) (action : Action) : Outcome Terminal (Option String) :=
  let done := t.act action
  ⟨t.answer action, done.state, done.events⟩

/-- All that matters for recalling lines: those submitted so far, and how many steps back from the
end of the kept ones the user stands. -/
structure Counter where
  lines : List String
  back : Nat

namespace Counter

def start : Counter := ⟨[], 0⟩

/-- The lines that are kept for recall. -/
def entries (c : Counter) : List String := (distinct c.lines).rtake limit

/-- A line is added and leads back to the end, a step moves the counter and recalls a line. -/
def respond (c : Counter) : Action → Outcome Counter (Option String)
  | .submit line => ⟨none, ⟨c.lines ++ [line], 0⟩, []⟩
  | .step direction =>
    let back := clamped c.entries.length direction c.back
    ⟨recalled c.entries back, { c with back }, []⟩
  | .setView _ | .onSession _ => ⟨none, c, []⟩

end Counter

/-- The terminal stands where the counter says, among the entries that it says. -/
structure Counted (t : Terminal) (c : Counter) : Prop where
  positioned : t.history.Positioned
  entries : t.history.entries = c.entries
  back : t.history.back = c.back

namespace Counted

variable {t : Terminal} {c : Counter}

theorem start (settings : Settings) : Counted (Terminal.start settings).state .start :=
  ⟨isPosition_none, rfl, rfl⟩

/-- Each action answers as the counter does and leads to where the counter goes. -/
theorem respond (h : Counted t c) (action : Action) :
    (t.respond action).value = (c.respond action).value ∧
      Counted (t.respond action).state (c.respond action).state := by
  cases action with
  | submit line =>
    refine ⟨rfl, positioned_record t.history (Text.trim line), ?_, rfl⟩
    have hentries : (t.respond (.submit line)).state.history.entries =
        (t.history.record (Text.trim line)).entries := rfl
    simp only [hentries, record, h.entries, Counter.entries]
    exact entries_record c.lines line
  | step direction =>
    have hback := h.positioned.back_step direction
    have hanswer := h.positioned.step_answer direction
    rw [hback] at hanswer
    rw [h.entries, h.back] at hback hanswer
    exact ⟨hanswer, h.positioned.step direction, (entries_step ..).trans h.entries, hback⟩
  | setView view => exact ⟨rfl, h.positioned, h.entries, h.back⟩
  | onSession action => exact ⟨rfl, h.positioned, h.entries, h.back⟩

end Counted

theorem state_respond (t : Terminal) (actions : List Action) :
    Run.state respond t actions = Run.state act t actions := by
  induction actions generalizing t with
  | nil => rfl
  | cons action actions ih => exact ih (t.act action).state

/-- Along every run the recalled lines are those of a counter between nought and the number of
entries. The position is always the one of an entry, a submitted line leads back to the end, a step
moves the counter by one as far as it goes, and it says nothing exactly if it ends at nought;
otherwise it says the line that many steps back. -/
theorem recall_counted (settings : Settings) (actions : List Action) :
    let t := after settings actions
    let entries := t.history.entries
    (Run.answers respond (start settings).state actions =
        Run.answers Counter.respond .start actions ∧
      t.history.back = (Run.state Counter.respond .start actions).back) ∧
    (∀ i, t.history.position = some i → i < entries.length) ∧
    (∀ line, (t.submit line).state.history.back = 0) ∧
    ∀ direction,
      let stepped := t.step direction
      stepped.1.history.entries = entries ∧
        stepped.1.history.back = clamped entries.length direction t.history.back ∧
        (stepped.2 = none ↔ stepped.1.history.back = 0) ∧
        stepped.2 = recalled entries stepped.1.history.back := by
  intro t entries
  have hrun : Run.answers respond (start settings).state actions =
        Run.answers Counter.respond .start actions ∧
      Counted (Run.state respond (start settings).state actions)
        (Run.state Counter.respond .start actions) :=
    Run.simulation (fun _ _ action h => h.respond action) (.start settings) actions
  obtain ⟨hanswers, hcounted⟩ := hrun
  rw [state_respond] at hcounted
  have hpositioned : t.history.Positioned := hcounted.positioned
  refine ⟨⟨hanswers, hcounted.back⟩, hpositioned, fun line => rfl, fun direction => ?_⟩
  intro stepped
  have hanswer : stepped.2 = recalled entries stepped.1.history.back :=
    hpositioned.step_answer direction
  have hentries : stepped.1.history.entries = entries := entries_step t.history direction
  have hle : stepped.1.history.back ≤ entries.length := hentries ▸ stepsBack_le
  refine ⟨hentries, hpositioned.back_step direction, ?_, hanswer⟩
  rw [hanswer]
  exact recalled_eq_none_iff hle

/-- The oldest line is where stepping back ends, and a new line starts it over. -/
example :
    Run.answers respond (start .standard).state
        [.step (-1), .submit "ls", .submit "pwd", .step (-1), .step (-1), .step (-1), .step 1,
          .submit " ", .step 1, .step (-1)] =
      [none, none, none, some "pwd", some "ls", some "ls", some "pwd", none, none, some "pwd"] := by
  decide +kernel

end Terminal

end MemShell
