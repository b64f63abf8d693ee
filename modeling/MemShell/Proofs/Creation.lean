import MemShell.Proofs.Run

/-!
# Names that are made and removed

What a run leaves in a list of names, told from its history alone: the list of its steps, whose
places are the times. A name lasts if it was made and not removed after it was made last, and
`ByCreation` says of a list that it holds the names that last, in the order of these times. There is
only one such list (`ByCreation.unique`). One step adds one name at the end, takes one out, or
leaves the list as it is (`Change`); `ByCreation.concat` says that the list then goes on being the
one of the history.
-/

namespace MemShell

namespace Run

variable {α : Type}

/-- No step after the given time satisfies `p`. The first step of a history has the time 0. -/
def NotAfter (p : α → Prop) (history : List α) (time : Nat) : Prop :=
  ∀ later step, time < later → history[later]? = some step → ¬ p step

/-- The last step that satisfies `p` is the one at the given time. -/
def LatestAt (p : α → Prop) (history : List α) (time : Nat) : Prop :=
  (∃ step, history[time]? = some step ∧ p step) ∧ NotAfter p history time

/-- The name is made at some time, and it is not removed after the latest such time. -/
def Lasts (made removed : String → α → Prop) (history : List α) (name : String) : Prop :=
  ∃ time, LatestAt (made name) history time ∧ NotAfter (removed name) history time

/-- The names are those that last, in the order of the times at which they were made. -/
structure ByCreation (made removed : String → α → Prop) (history : List α)
    (names : List String) : Prop where
  mem_iff : ∀ name, name ∈ names ↔ Lasts made removed history name
  sorted : names.Pairwise fun name other => ∀ time later,
    LatestAt (made name) history time → LatestAt (made other) history later → time < later

/-- What one step does to a list of names: nothing, or it makes one more name, or it removes one. -/
inductive Change (made removed : String → Prop) (names : List String) : List String → Prop where
  | none (hmade : ∀ name, ¬ made name) (hremoved : ∀ name ∈ names, ¬ removed name) :
    Change made removed names names
  | add {name : String} (hmade : ∀ other, made other ↔ other = name)
    (hremoved : ∀ other ∈ names, ¬ removed other) (hfresh : name ∉ names) :
    Change made removed names (names ++ [name])
  | drop {name : String} (hmade : ∀ other, ¬ made other)
    (hremoved : ∀ other ∈ names, removed other ↔ other = name) :
    Change made removed names (names.erase name)

variable {made removed : String → α → Prop} {p : α → Prop} {history : List α} {step : α}
  {names others : List String} {name : String} {time : Nat}

/-! ## One more step -/

theorem LatestAt.lt_length (h : LatestAt p history time) : time < history.length := by
  obtain ⟨⟨there, hthere, -⟩, -⟩ := h
  exact (List.getElem?_eq_some_iff.1 hthere).1

theorem notAfter_concat (htime : time < history.length) :
    NotAfter p (history ++ [step]) time ↔ NotAfter p history time ∧ ¬ p step := by
  constructor
  · intro h
    refine ⟨fun later other hlater hother => h later other hlater ?_, ?_⟩
    · rw [List.getElem?_append_left (List.getElem?_eq_some_iff.1 hother).1]
      exact hother
    · exact h history.length step htime (by simp)
  · rintro ⟨h, hstep⟩ later other hlater hother
    rcases Nat.lt_or_ge later history.length with hold | hnew
    · rw [List.getElem?_append_left hold] at hother
      exact h later other hlater hother
    · rw [List.getElem?_append_right hnew] at hother
      rw [List.mem_singleton.1 (List.mem_of_getElem? hother)]
      exact hstep

theorem notAfter_length : NotAfter p (history ++ [step]) history.length := by
  intro later other hlater hother
  have hlength := (List.getElem?_eq_some_iff.1 hother).1
  rw [List.length_append, List.length_singleton] at hlength
  omega

theorem latestAt_concat :
    LatestAt p (history ++ [step]) time ↔
      (p step ∧ time = history.length) ∨ (¬ p step ∧ LatestAt p history time) := by
  constructor
  · intro h
    have hlength := h.lt_length
    obtain ⟨⟨there, hthere, hp⟩, hafter⟩ := h
    rw [List.length_append, List.length_singleton] at hlength
    rcases Nat.lt_or_ge time history.length with hold | hnew
    · rw [notAfter_concat hold] at hafter
      rw [List.getElem?_append_left hold] at hthere
      exact .inr ⟨hafter.2, ⟨there, hthere, hp⟩, hafter.1⟩
    · obtain rfl : time = history.length := by omega
      rw [List.getElem?_concat_length] at hthere
      cases hthere
      exact .inl ⟨hp, rfl⟩
  · rintro (⟨hp, rfl⟩ | ⟨hp, h⟩)
    · exact ⟨⟨step, List.getElem?_concat_length, hp⟩, notAfter_length⟩
    · have hold := h.lt_length
      obtain ⟨⟨there, hthere, hpthere⟩, hafter⟩ := h
      refine ⟨⟨there, ?_, hpthere⟩, (notAfter_concat hold).2 ⟨hafter, hp⟩⟩
      rw [List.getElem?_append_left hold]
      exact hthere

theorem lasts_concat :
    Lasts made removed (history ++ [step]) name ↔
      made name step ∨ Lasts made removed history name ∧ ¬ removed name step := by
  constructor
  · rintro ⟨time, hlatest, hafter⟩
    rcases latestAt_concat.1 hlatest with ⟨hmade, -⟩ | ⟨-, hold⟩
    · exact .inl hmade
    · obtain ⟨hkept, hremoved⟩ := (notAfter_concat hold.lt_length).1 hafter
      exact .inr ⟨⟨time, hold, hkept⟩, hremoved⟩
  · intro h
    by_cases hmade : made name step
    · exact ⟨history.length, latestAt_concat.2 (.inl ⟨hmade, rfl⟩), notAfter_length⟩
    · obtain ⟨⟨time, hold, hkept⟩, hremoved⟩ := h.resolve_left hmade
      exact ⟨time, latestAt_concat.2 (.inr ⟨hmade, hold⟩),
        (notAfter_concat hold.lt_length).2 ⟨hkept, hremoved⟩⟩

namespace ByCreation

/-- Before the first step there is nothing. -/
theorem nil : ByCreation made removed [] [] := by
  refine ⟨fun name => iff_of_false (by simp) ?_, List.Pairwise.nil⟩
  rintro ⟨time, hlatest, -⟩
  exact absurd hlatest.lt_length (Nat.not_lt_zero time)

theorem nodup (h : ByCreation made removed history names) : names.Nodup := by
  refine h.sorted.imp_of_mem fun hname _ hsorted heq => ?_
  subst heq
  obtain ⟨time, hlatest, -⟩ := (h.mem_iff _).1 hname
  exact absurd (hsorted time time hlatest hlatest) (Nat.lt_irrefl time)

/-- A step that makes none of the names leaves their times as they are. -/
theorem sorted_concat (h : ByCreation made removed history names)
    (hmade : ∀ name ∈ names, ¬ made name step) :
    names.Pairwise fun name other => ∀ time later,
      LatestAt (made name) (history ++ [step]) time →
        LatestAt (made other) (history ++ [step]) later → time < later := by
  refine h.sorted.imp_of_mem fun hname hother hsorted time later htime hlater => ?_
  have hold := (latestAt_concat.1 htime).resolve_left fun hnew => hmade _ hname hnew.1
  have hold' := (latestAt_concat.1 hlater).resolve_left fun hnew => hmade _ hother hnew.1
  exact hsorted time later hold.2 hold'.2

/-- The list that a step leaves is the list of the history with the step. -/
theorem concat (h : ByCreation made removed history names)
    (hchange : Change (made · step) (removed · step) names others) :
    ByCreation made removed (history ++ [step]) others := by
  cases hchange with
  | none hmade hremoved =>
    refine ⟨fun name => ?_, h.sorted_concat fun name _ => hmade name⟩
    rw [lasts_concat, ← h.mem_iff]
    constructor
    · exact fun hname => .inr ⟨hname, hremoved name hname⟩
    · rintro (hnew | ⟨hname, -⟩)
      · exact absurd hnew (hmade name)
      · exact hname
  | @add name hmade hremoved hfresh =>
    refine ⟨fun other => ?_, ?_⟩
    · rw [lasts_concat, ← h.mem_iff, hmade, List.mem_append, List.mem_singleton]
      constructor
      · rintro (hother | hother)
        · exact .inr ⟨hother, hremoved other hother⟩
        · exact .inl hother
      · rintro (hother | ⟨hother, -⟩)
        · exact .inr hother
        · exact .inl hother
    · have hold : ∀ other ∈ names, ¬ made other step := fun other hother hnew =>
        hfresh ((hmade other).1 hnew ▸ hother)
      refine List.pairwise_append.2 ⟨h.sorted_concat hold, List.pairwise_singleton _ _, ?_⟩
      intro other hother last hlast time later htime hlater
      rw [List.mem_singleton.1 hlast] at hlater
      -- The new name is made at the last time of all, the others before it.
      have hbefore := (latestAt_concat.1 htime).resolve_left fun hnew => hold other hother hnew.1
      have hnow := (latestAt_concat.1 hlater).resolve_right fun hnot =>
        hnot.1 ((hmade name).2 rfl)
      rw [hnow.2]
      exact hbefore.2.lt_length
  | @drop name hmade hremoved =>
    refine ⟨fun other => ?_,
      (h.sorted_concat fun other _ => hmade other).sublist List.erase_sublist⟩
    rw [lasts_concat, ← h.mem_iff, h.nodup.mem_erase_iff]
    constructor
    · rintro ⟨hne, hother⟩
      exact .inr ⟨hother, mt (hremoved other hother).1 hne⟩
    · rintro (hnew | ⟨hother, hkept⟩)
      · exact absurd hnew (hmade other)
      · exact ⟨mt (hremoved other hother).2 hkept, hother⟩

/-- There is only one list of the names that last in the order of their making. -/
theorem unique (h : ByCreation made removed history names)
    (hothers : ByCreation made removed history others) : names = others := by
  have hperm : names.Perm others := (List.perm_ext_iff_of_nodup h.nodup hothers.nodup).2
    fun name => (h.mem_iff name).trans (hothers.mem_iff name).symm
  refine hperm.eq_of_pairwise (fun name other hname hother hbefore hbehind => ?_) h.sorted
    hothers.sorted
  obtain ⟨time, hlatest, -⟩ := (h.mem_iff name).1 hname
  obtain ⟨later, hlater, -⟩ := (hothers.mem_iff other).1 hother
  have hlt := hbefore time later hlatest hlater
  have hgt := hbehind later time hlater hlatest
  omega

/-- If each step of a component changes the list, then after a run it is the list of the history
that the run makes longer. -/
theorem run {σ ι β : Type} {act : σ → ι → Outcome σ β} {made removed : String → σ × ι → Prop}
    {P : σ → Prop} {list : σ → List String} (hP : ∀ s input, P s → P (act s input).state)
    (hact : ∀ s input, P s →
      Change (made · (s, input)) (removed · (s, input)) (list s) (list (act s input).state))
    {s : σ} (hs : P s) {history : List (σ × ι)} (h : ByCreation made removed history (list s))
    (inputs : List ι) :
    ByCreation made removed (history ++ steps act s inputs) (list (state act s inputs)) := by
  induction inputs generalizing s history with
  | nil => simpa [steps] using h
  | cons input inputs ih =>
    rw [steps, List.append_cons]
    exact ih (hP s input hs) (h.concat (hact s input hs))

end ByCreation

end Run

end MemShell
