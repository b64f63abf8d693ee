import Mathlib.Data.List.DropRight
import MemShell.Text.Blank

/-!
# Words

A word is a text without blanks. A gap of blanks cuts a line in two whose words follow each other
(`IsGap.words_append`), and a word is its own only word (`IsWord.words_eq`), so the words of a
line that was put together from words are known. Trimming a line leaves its words (`words_trim`),
and trimming it again changes nothing (`trim_trim`).
-/

namespace MemShell.Text

structure IsWord (text : String) : Prop where
  ne_empty : text ≠ ""
  not_blank : ∀ c ∈ text.toList, isBlank c = false

instance (text : String) : Decidable (IsWord text) :=
  decidable_of_iff (text ≠ "" ∧ text.toList.all (fun c => !isBlank c) = true)
    ⟨fun h => ⟨h.1, by simpa using h.2⟩, fun h => ⟨h.ne_empty, by simpa using h.not_blank⟩⟩

/-- What `words` gives are words. -/
theorem isWord_of_mem_words {line word : String} (h : word ∈ words line) : IsWord word := by
  obtain ⟨cs, hcs, rfl⟩ := List.mem_map.1 h
  refine ⟨fun hempty => ?_, fun c hc => ?_⟩
  · exact ne_nil_of_mem_runs hcs (String.ofList_eq_empty_iff.1 hempty)
  · rw [String.toList_ofList] at hc
    exact not_sep_of_mem_runs hcs hc

theorem IsWord.words_eq {word : String} (h : IsWord word) : words word = [word] := by
  have hne : word.toList ≠ [] := fun hnil => h.ne_empty (String.toList_eq_nil_iff.1 hnil)
  rw [words, runs_eq_singleton hne h.not_blank, List.map_singleton, String.ofList_toList]

theorem IsWord.append {word other : String} (h : IsWord word) (hother : IsWord other) :
    IsWord (word ++ other) := by
  refine ⟨fun hempty => h.ne_empty (String.append_eq_empty_iff.1 hempty).1, fun c hc => ?_⟩
  rw [String.toList_append, List.mem_append] at hc
  rcases hc with hc | hc
  · exact h.not_blank c hc
  · exact hother.not_blank c hc

theorem runs_eq_nil_iff {α : Type} {sep : α → Bool} {cs : List α} :
    runs sep cs = [] ↔ ∀ c ∈ cs, sep c = true := by
  induction cs with
  | nil => simp
  | cons c cs ih =>
    cases hc : sep c with
    | true => simp [runs_cons_of_sep hc, ih, hc]
    | false => simp [runs_cons_of_not_sep hc, hc]

/-- A text is what is left without the separators that it ends in, and these separators. -/
theorem exists_dropTrailing {α : Type} (sep : α → Bool) (cs : List α) :
    ∃ seps, cs = dropTrailing sep cs ++ seps ∧ ∀ c ∈ seps, sep c = true := by
  refine ⟨(cs.reverse.takeWhile sep).reverse, ?_, fun c hc => ?_⟩
  · rw [dropTrailing, ← List.reverse_append, List.takeWhile_append_dropWhile, List.reverse_reverse]
  · exact List.all_eq_true.1 List.all_takeWhile c (List.mem_reverse.1 hc)

/-- Separators at the front are in no run. -/
theorem runs_seps_append {α : Type} {sep : α → Bool} {seps : List α}
    (h : ∀ c ∈ seps, sep c = true) (cs : List α) : runs sep (seps ++ cs) = runs sep cs := by
  induction seps with
  | nil => rfl
  | cons c seps ih =>
    obtain ⟨hc, hrest⟩ := List.forall_mem_cons.1 h
    rw [List.cons_append, runs_cons_of_sep hc, ih hrest]

/-- Separators at the end are in no run. -/
theorem runs_append_seps {α : Type} {sep : α → Bool} {seps : List α}
    (h : ∀ c ∈ seps, sep c = true) (cs : List α) : runs sep (cs ++ seps) = runs sep cs := by
  cases seps with
  | nil => rw [List.append_nil]
  | cons c seps =>
    obtain ⟨hc, hrest⟩ := List.forall_mem_cons.1 h
    rw [runs_append_sep hc, runs_eq_nil_iff.2 hrest, List.append_nil]

theorem runs_dropWhile {α : Type} (sep : α → Bool) (cs : List α) :
    runs sep (cs.dropWhile sep) = runs sep cs := by
  have hfront : ∀ c ∈ cs.takeWhile sep, sep c = true := List.all_eq_true.1 List.all_takeWhile
  rw [← runs_seps_append hfront, List.takeWhile_append_dropWhile]

theorem runs_dropTrailing {α : Type} (sep : α → Bool) (cs : List α) :
    runs sep (dropTrailing sep cs) = runs sep cs := by
  obtain ⟨seps, hcs, hseps⟩ := exists_dropTrailing sep cs
  rw [← runs_append_seps hseps, ← hcs]

/-- Only a line of blanks has no words. -/
theorem words_eq_nil_iff {line : String} :
    words line = [] ↔ ∀ c ∈ line.toList, isBlank c = true := by
  rw [words, List.map_eq_nil_iff, runs_eq_nil_iff]

/-! ## Blanks between words -/

/-- Nothing but blanks, and maybe nothing at all. -/
def IsBlankText (text : String) : Prop := ∀ c ∈ text.toList, isBlank c = true

instance (text : String) : Decidable (IsBlankText text) :=
  decidable_of_iff (text.toList.all isBlank = true) List.all_eq_true

theorem isBlankText_empty : IsBlankText "" := List.forall_mem_nil _

theorem isBlankText_append {text other : String} :
    IsBlankText (text ++ other) ↔ IsBlankText text ∧ IsBlankText other := by
  rw [IsBlankText, String.toList_append, List.forall_mem_append, IsBlankText, IsBlankText]

/-- What can stand between two words: blanks, and at least one. -/
structure IsGap (text : String) : Prop where
  ne_empty : text ≠ ""
  blank : IsBlankText text

theorem IsBlankText.words_lead {lead : String} (h : IsBlankText lead) (line : String) :
    words (lead ++ line) = words line := by
  rw [words, String.toList_append, runs_seps_append h, words]

theorem IsBlankText.words_trail {trail : String} (h : IsBlankText trail) (line : String) :
    words (line ++ trail) = words line := by
  rw [words, String.toList_append, runs_append_seps h, words]

/-- A gap cuts a line in two whose words follow each other. -/
theorem IsGap.words_append {gap : String} (h : IsGap gap) (line other : String) :
    words (line ++ gap ++ other) = words line ++ words other := by
  cases hgap : gap.toList with
  | nil => exact absurd (String.toList_eq_nil_iff.1 hgap) h.ne_empty
  | cons c blanks =>
    have hblank := h.blank
    rw [IsBlankText, hgap, List.forall_mem_cons] at hblank
    have hcut : (line ++ gap ++ other).toList = line.toList ++ c :: (blanks ++ other.toList) := by
      simp [hgap]
    rw [words, hcut, runs_append_sep hblank.1, runs_seps_append hblank.2, List.map_append, words,
      words]

theorem words_append_blank (line other : String) :
    words (line ++ " " ++ other) = words line ++ words other :=
  IsGap.words_append ⟨by decide, by decide⟩ line other

/-- Words with a gap between them can be read back. -/
theorem IsGap.words_intercalate {gap : String} (hgap : IsGap gap) {names : List String}
    (h : ∀ name ∈ names, IsWord name) : words (gap.intercalate names) = names := by
  induction names with
  | nil =>
    rw [String.intercalate_nil]
    rfl
  | cons name names ih =>
    obtain ⟨hname, hrest⟩ := List.forall_mem_cons.1 h
    cases names with
    | nil => rw [String.intercalate_singleton, hname.words_eq]
    | cons other names =>
      rw [String.intercalate_cons_cons, hgap.words_append, hname.words_eq, ih hrest,
        List.singleton_append]

/-- Words with two blanks between them can be read back. -/
theorem words_intercalate {names : List String} (h : ∀ name ∈ names, IsWord name) :
    words ("  ".intercalate names) = names :=
  IsGap.words_intercalate ⟨by decide, by decide⟩ h

/-- The words of a call with one argument. -/
theorem words_call {name arg : String} (hname : IsWord name) (harg : IsWord arg) :
    words (name ++ " " ++ arg) = [name, arg] := by
  rw [words_append_blank, hname.words_eq, harg.words_eq, List.singleton_append]

/-! ## Trimming -/

theorem words_trim (line : String) : words (trim line) = words line := by
  rw [words, trim, String.toList_ofList, runs_dropTrailing, runs_dropWhile, words]

/-- Only of blanks nothing is left. -/
theorem trim_eq_empty_iff {line : String} : trim line = "" ↔ IsBlankText line := by
  constructor
  · intro hempty
    have hwords := words_trim line
    rw [hempty] at hwords
    exact words_eq_nil_iff.1 hwords.symm
  · intro hblank
    rw [trim, List.dropWhile_eq_nil_iff.2 hblank]
    rfl

theorem dropTrailing_dropTrailing {α : Type} (sep : α → Bool) (cs : List α) :
    dropTrailing sep (dropTrailing sep cs) = dropTrailing sep cs := by
  rw [dropTrailing, dropTrailing, List.reverse_reverse, List.dropWhile_idempotent]

/-- What does not start with a separator does not start with one when it is cut at its end. -/
theorem dropWhile_dropTrailing {α : Type} (sep : α → Bool) {cs : List α}
    (h : cs.dropWhile sep = cs) : (dropTrailing sep cs).dropWhile sep = dropTrailing sep cs := by
  obtain ⟨seps, hcs, -⟩ := exists_dropTrailing sep cs
  cases hkept : dropTrailing sep cs with
  | nil => rfl
  | cons c kept =>
    rw [hkept, List.cons_append] at hcs
    have hc : sep c = false := by
      have hhead := List.head?_dropWhile_not sep cs
      rw [h, hcs] at hhead
      simpa using hhead
    rw [List.dropWhile_cons_of_neg (Bool.eq_false_iff.1 hc)]

theorem trim_trim (line : String) : trim (trim line) = trim line := by
  have hfront : (line.toList.dropWhile isBlank).dropWhile isBlank = line.toList.dropWhile isBlank :=
    List.dropWhile_idempotent ..
  rw [trim, trim, String.toList_ofList, dropWhile_dropTrailing isBlank hfront,
    dropTrailing_dropTrailing]

end MemShell.Text
