/-!
# Runs of a text

A run is a longest non-empty stretch of a text that holds no separator. The words of a line are
its runs between blanks, and the segments of a path are its runs between slashes.

`runs_append_sep` says that a separator cuts a text in two whose runs follow each other,
`runs_eq_singleton` that a stretch without separators is its own only run, and `not_sep_of_mem_runs`
with `ne_nil_of_mem_runs` that runs are what they are called. So nothing below has to unfold the
recursion.
-/

namespace MemShell.Text

variable {α : Type}

/-- The stretch before the first separator, which may be empty, and the runs after it. -/
def splitRun (sep : α → Bool) : List α → List α × List (List α)
  | [] => ([], [])
  | c :: cs =>
    let (first, rest) := splitRun sep cs
    if sep c then ([], if first.isEmpty then rest else first :: rest) else (c :: first, rest)

/-- The maximal non-empty stretches without a separator, in order. -/
def runs (sep : α → Bool) (cs : List α) : List (List α) :=
  let (first, rest) := splitRun sep cs
  if first.isEmpty then rest else first :: rest

@[simp] theorem runs_nil (sep : α → Bool) : runs sep [] = [] := rfl

/-- A separator at the front ends the first stretch before it has begun. -/
theorem splitRun_cons_of_sep {sep : α → Bool} {c : α} (h : sep c = true) (cs : List α) :
    splitRun sep (c :: cs) = ([], runs sep cs) := by
  simp [runs, splitRun, h]

theorem splitRun_cons_of_not_sep {sep : α → Bool} {c : α} (h : sep c = false) (cs : List α) :
    splitRun sep (c :: cs) = (c :: (splitRun sep cs).1, (splitRun sep cs).2) := by
  simp [splitRun, h]

/-- A separator at the front adds nothing. -/
theorem runs_cons_of_sep {sep : α → Bool} {c : α} (h : sep c = true) (cs : List α) :
    runs sep (c :: cs) = runs sep cs := by
  simp [runs, splitRun, h]

/-- Any other character at the front extends the stretch that the text starts with. -/
theorem runs_cons_of_not_sep {sep : α → Bool} {c : α} (h : sep c = false) (cs : List α) :
    runs sep (c :: cs) = (c :: (splitRun sep cs).1) :: (splitRun sep cs).2 := by
  simp [runs, splitRun, h]

theorem splitRun_append_sep {sep : α → Bool} {c : α} (h : sep c = true) (xs ys : List α) :
    splitRun sep (xs ++ c :: ys) = ((splitRun sep xs).1, (splitRun sep xs).2 ++ runs sep ys) := by
  induction xs with
  | nil => simp [splitRun, runs, h]
  | cons x xs ih =>
    by_cases hx : sep x
    · by_cases he : (splitRun sep xs).1 = [] <;> simp [splitRun, ih, hx, he]
    · simp [splitRun, ih, hx]

/-- A separator cuts a text in two whose runs follow each other. -/
theorem runs_append_sep {sep : α → Bool} {c : α} (h : sep c = true) (xs ys : List α) :
    runs sep (xs ++ c :: ys) = runs sep xs ++ runs sep ys := by
  by_cases he : (splitRun sep xs).1 = []
  · simp [runs, splitRun_append_sep h, he]
  · simp [runs, splitRun_append_sep h, he]

theorem splitRun_of_free {sep : α → Bool} {cs : List α} (h : ∀ c ∈ cs, sep c = false) :
    splitRun sep cs = (cs, []) := by
  induction cs with
  | nil => rfl
  | cons c cs ih =>
    simp [splitRun, h c (by simp), ih fun d hd => h d (by simp [hd])]

/-- A stretch without separators is its own only run. -/
theorem runs_eq_singleton {sep : α → Bool} {cs : List α} (hne : cs ≠ [])
    (h : ∀ c ∈ cs, sep c = false) : runs sep cs = [cs] := by
  simp [runs, splitRun_of_free h, hne]

/-- The stretch before the first separator holds none, and neither does any run after it. -/
theorem not_sep_of_mem_splitRun {sep : α → Bool} {cs run : List α} {c : α}
    (hrun : run = (splitRun sep cs).1 ∨ run ∈ (splitRun sep cs).2) (hc : c ∈ run) :
    sep c = false := by
  induction cs generalizing run with
  | nil =>
    rcases hrun with rfl | hrun
    · simp [splitRun] at hc
    · simp [splitRun] at hrun
  | cons x xs ih =>
    by_cases hx : sep x
    · rcases hrun with rfl | hrun
      · simp [splitRun, hx] at hc
      · by_cases he : (splitRun sep xs).1 = []
        · simp only [splitRun, hx, he, ↓reduceIte, List.isEmpty_nil] at hrun
          exact ih (.inr hrun) hc
        · simp only [splitRun, hx, ↓reduceIte, List.isEmpty_iff, he, List.mem_cons] at hrun
          exact ih hrun hc
    · rcases hrun with rfl | hrun
      · simp only [splitRun, hx, Bool.false_eq_true, ↓reduceIte, List.mem_cons] at hc
        rcases hc with rfl | hc
        · simpa using hx
        · exact ih (.inl rfl) hc
      · simp only [splitRun, hx, Bool.false_eq_true, ↓reduceIte] at hrun
        exact ih (.inr hrun) hc

/-- No run holds a separator. -/
theorem not_sep_of_mem_runs {sep : α → Bool} {cs run : List α} {c : α} (hrun : run ∈ runs sep cs)
    (hc : c ∈ run) : sep c = false := by
  by_cases he : (splitRun sep cs).1 = []
  · simp only [runs, he, List.isEmpty_nil, ↓reduceIte] at hrun
    exact not_sep_of_mem_splitRun (.inr hrun) hc
  · simp only [runs, List.isEmpty_iff, he, ↓reduceIte, List.mem_cons] at hrun
    exact not_sep_of_mem_splitRun hrun hc

theorem ne_nil_of_mem_splitRun {sep : α → Bool} {cs run : List α}
    (hrun : run ∈ (splitRun sep cs).2) : run ≠ [] := by
  induction cs with
  | nil => simp [splitRun] at hrun
  | cons x xs ih =>
    by_cases hx : sep x
    · by_cases he : (splitRun sep xs).1 = []
      · simp only [splitRun, hx, he, ↓reduceIte, List.isEmpty_nil] at hrun
        exact ih hrun
      · simp only [splitRun, hx, ↓reduceIte, List.isEmpty_iff, he, List.mem_cons] at hrun
        rcases hrun with rfl | hrun
        · exact he
        · exact ih hrun
    · simp only [splitRun, hx, Bool.false_eq_true, ↓reduceIte] at hrun
      exact ih hrun

/-- No run is empty. -/
theorem ne_nil_of_mem_runs {sep : α → Bool} {cs run : List α} (hrun : run ∈ runs sep cs) :
    run ≠ [] := by
  by_cases he : (splitRun sep cs).1 = []
  · simp only [runs, he, List.isEmpty_nil, ↓reduceIte] at hrun
    exact ne_nil_of_mem_splitRun hrun
  · simp only [runs, List.isEmpty_iff, he, ↓reduceIte, List.mem_cons] at hrun
    rcases hrun with rfl | hrun
    · exact he
    · exact ne_nil_of_mem_splitRun hrun

/-- The text without the separators it ends in. -/
def dropTrailing (sep : α → Bool) (cs : List α) : List α :=
  (cs.reverse.dropWhile sep).reverse

end MemShell.Text
