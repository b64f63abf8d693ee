import MemShell.Command
import MemShell.History
import MemShell.Proofs.Text.Words

/-!
# Reading calls from lines

A call can be laid out in a line in many ways: before its name, behind its last word and between two
of its words there can be any blanks, as long as no two words touch. Every `Layout` is read as the
call that it lays out (`Layout.ofLine?_line`), and every line that is not blank is a layout
(`exists_layout`), so nothing else is ever read. The blank lines are the ones that trimming leaves
nothing of (`Text.trim_eq_empty_iff`), so the history keeps the lines that are read as a call.
-/

namespace MemShell.Invocation

open Text (IsBlankText IsGap IsWord)

/-- The words that a line was read as, none if it is blank. -/
def wordsOf : Option Invocation → List String
  | none => []
  | some call => call.name :: call.args

theorem wordsOf_ofLine? (line : String) : wordsOf (ofLine? line) = Text.words line := by
  rw [ofLine?]
  split
  · next hwords => exact hwords.symm
  · next hwords => exact hwords.symm

theorem ofLine?_congr {line other : String} (h : Text.words line = Text.words other) :
    ofLine? line = ofLine? other := by
  rw [ofLine?, ofLine?, h]

theorem ofLine?_of_words {line name : String} {args : List String}
    (h : Text.words line = name :: args) : ofLine? line = some ⟨name, args⟩ := by
  rw [ofLine?, h]

theorem ofLine?_eq_none_iff {line : String} : ofLine? line = none ↔ IsBlankText line := by
  have hwords : ofLine? line = none ↔ Text.words line = [] := by
    rw [← wordsOf_ofLine?]
    cases ofLine? line with
    | none => exact iff_of_true rfl rfl
    | some call => exact iff_of_false (Option.some_ne_none call) (List.cons_ne_nil _ _)
  exact hwords.trans Text.words_eq_nil_iff

/-! ## Layouts -/

/-- A call with the blanks around its words. -/
structure Layout where
  lead : String
  name : String
  /-- The arguments, each behind the gap before it. -/
  args : List (String × String)
  trail : String
  lead_blank : IsBlankText lead
  name_word : IsWord name
  args_spaced : ∀ spaced ∈ args, IsGap spaced.1 ∧ IsWord spaced.2
  trail_blank : IsBlankText trail

namespace Layout

/-- The arguments as they stand in the line. -/
def spacedArgs (args : List (String × String)) : String :=
  String.join (args.map fun spaced => spaced.1 ++ spaced.2)

def line (layout : Layout) : String :=
  layout.lead ++ (layout.name ++ spacedArgs layout.args) ++ layout.trail

def call (layout : Layout) : Invocation := ⟨layout.name, layout.args.map Prod.snd⟩

theorem spacedArgs_cons (gap arg : String) (args : List (String × String)) :
    spacedArgs ((gap, arg) :: args) = gap ++ arg ++ spacedArgs args := by
  rw [spacedArgs, List.map_cons, String.join_cons, spacedArgs]

theorem words_append_spacedArgs {args : List (String × String)}
    (h : ∀ spaced ∈ args, IsGap spaced.1 ∧ IsWord spaced.2) (before : String) :
    Text.words (before ++ spacedArgs args) = Text.words before ++ args.map Prod.snd := by
  induction args generalizing before with
  | nil =>
    rw [spacedArgs, List.map_nil, List.map_nil, String.join_nil, String.append_empty,
      List.append_nil]
  | cons spaced args ih =>
    obtain ⟨⟨hgap, hword⟩, hrest⟩ := List.forall_mem_cons.1 h
    have hassoc : before ++ spacedArgs (spaced :: args) =
        before ++ spaced.1 ++ spaced.2 ++ spacedArgs args := by
      rw [spacedArgs_cons, ← String.append_assoc, ← String.append_assoc]
    rw [hassoc, ih hrest, hgap.words_append, hword.words_eq, List.append_assoc,
      List.singleton_append, List.map_cons]

/-- However a call is laid out, it is read. -/
theorem ofLine?_line (layout : Layout) : ofLine? layout.line = some layout.call := by
  refine ofLine?_of_words ?_
  rw [line, layout.trail_blank.words_trail, layout.lead_blank.words_lead,
    words_append_spacedArgs layout.args_spaced, layout.name_word.words_eq, List.singleton_append]

/-! ### Longer layouts -/

/-- Blanks in front of a layout join the blanks that it starts with. -/
theorem exists_append_of_blank (layout : Layout) {blanks : String} (h : IsBlankText blanks) :
    ∃ longer : Layout, longer.line = blanks ++ layout.line := by
  have hlead : IsBlankText (blanks ++ layout.lead) :=
    Text.isBlankText_append.2 ⟨h, layout.lead_blank⟩
  refine ⟨{ layout with lead := _, lead_blank := hlead }, ?_⟩
  simp only [line, String.append_assoc]

/-- A word in front of a layout is its new name, and what was the name becomes the first argument,
unless the two words touch. -/
theorem exists_append_of_word (layout : Layout) {word : String} (h : IsWord word) :
    ∃ longer : Layout, longer.line = word ++ layout.line := by
  by_cases hlead : layout.lead = ""
  · refine ⟨{ layout with name := _, name_word := h.append layout.name_word }, ?_⟩
    simp only [line, hlead, String.empty_append, String.append_assoc]
  · have hspaced : IsGap layout.lead ∧ IsWord layout.name :=
      ⟨⟨hlead, layout.lead_blank⟩, layout.name_word⟩
    refine ⟨⟨"", word, (layout.lead, layout.name) :: layout.args, layout.trail,
      Text.isBlankText_empty, h, List.forall_mem_cons.2 ⟨hspaced, layout.args_spaced⟩,
      layout.trail_blank⟩, ?_⟩
    simp only [line, spacedArgs_cons, String.empty_append, String.append_assoc]

theorem exists_of_word {word trail : String} (h : IsWord word) (htrail : IsBlankText trail) :
    ∃ layout : Layout, layout.line = word ++ trail := by
  refine ⟨⟨"", word, [], trail, Text.isBlankText_empty, h, List.forall_mem_nil _, htrail⟩, ?_⟩
  rw [line, spacedArgs, List.map_nil, String.join_nil, String.append_empty, String.empty_append]

end Layout

/-- A line that is not blank is a layout. -/
theorem exists_layout (cs : List Char) :
    IsBlankText (String.ofList cs) ∨ ∃ layout : Layout, layout.line = String.ofList cs := by
  induction cs with
  | nil => exact .inl Text.isBlankText_empty
  | cons c cs ih =>
    have hfront : String.ofList (c :: cs) = String.singleton c ++ String.ofList cs := by
      apply String.toList_injective
      simp
    rw [hfront]
    cases hc : Text.isBlank c with
    | true =>
      have hblank : IsBlankText (String.singleton c) := by simpa [IsBlankText] using hc
      rcases ih with hrest | ⟨layout, hlayout⟩
      · exact .inl (Text.isBlankText_append.2 ⟨hblank, hrest⟩)
      · rw [← hlayout]
        exact .inr (layout.exists_append_of_blank hblank)
    | false =>
      have hword : IsWord (String.singleton c) := ⟨String.singleton_ne_empty, by simpa using hc⟩
      rcases ih with hrest | ⟨layout, hlayout⟩
      · exact .inr (Layout.exists_of_word hword hrest)
      · rw [← hlayout]
        exact .inr (layout.exists_append_of_word hword)

/-- Exactly the layouts of a call are read as the call. -/
theorem ofLine?_eq_some_iff {line : String} {call : Invocation} :
    ofLine? line = some call ↔ ∃ layout : Layout, layout.line = line ∧ layout.call = call := by
  constructor
  · intro hcall
    have hexists := exists_layout line.toList
    rw [String.ofList_toList] at hexists
    rcases hexists with hblank | ⟨layout, hlayout⟩
    · rw [ofLine?_eq_none_iff.2 hblank] at hcall
      cases hcall
    · refine ⟨layout, hlayout, ?_⟩
      rw [← hlayout, layout.ofLine?_line] at hcall
      exact Option.some.inj hcall
  · rintro ⟨layout, rfl, rfl⟩
    exact layout.ofLine?_line

/-! ## Trimming and writing again -/

theorem ofLine?_trim (line : String) : ofLine? (Text.trim line) = ofLine? line :=
  ofLine?_congr (Text.words_trim line)

/-- With a gap between each two of its words a call is read as it was. -/
theorem ofLine?_intercalate {gap : String} (hgap : IsGap gap) (line : String) :
    ofLine? (gap.intercalate (wordsOf (ofLine? line))) = ofLine? line := by
  rw [wordsOf_ofLine?]
  exact ofLine?_congr (hgap.words_intercalate fun word => Text.isWord_of_mem_words)

/-- A line joins the history if it is read as a call. -/
theorem entries_record_trim (history : History) (line : String) :
    (history.record (Text.trim line)).entries =
      if ofLine? line = none then history.entries
      else History.push history.entries (Text.trim line) := by
  have hblank : ofLine? line = none ↔ Text.trim line = "" :=
    ofLine?_eq_none_iff.trans Text.trim_eq_empty_iff.symm
  simp only [History.record, hblank]

/-- Reading undoes laying out: whatever the gaps between the words of a call and whatever the blanks
around them, the call is read, and what is read as a call is one of its layouts. No call is read
exactly from the blank lines, of which trimming leaves nothing and of which the history keeps
nothing. Trimming a line first, or writing the words that were read with single spaces between them,
does not change what is read. -/
theorem layouts_read :
    (∀ layout : Layout, ofLine? layout.line = some layout.call) ∧
    (∀ line call, ofLine? line = some call ↔
      ∃ layout : Layout, layout.line = line ∧ layout.call = call) ∧
    (∀ line, (ofLine? line = none ↔ IsBlankText line) ∧
      (IsBlankText line ↔ Text.trim line = "")) ∧
    (∀ line, ofLine? line = ofLine? (Text.trim line)) ∧
    (∀ line, ofLine? (" ".intercalate (wordsOf (ofLine? line))) = ofLine? line) ∧
    ∀ (history : History) (line : String), (history.record (Text.trim line)).entries =
      if ofLine? line = none then history.entries
      else History.push history.entries (Text.trim line) := by
  have hspace : IsGap " " := ⟨by decide, by decide⟩
  refine ⟨Layout.ofLine?_line, fun line call => ofLine?_eq_some_iff, fun line => ?_,
    fun line => (ofLine?_trim line).symm, ofLine?_intercalate hspace, entries_record_trim⟩
  exact ⟨ofLine?_eq_none_iff, Text.trim_eq_empty_iff.symm⟩

/-- An ideographic space, a tab with a no-break space, and a line feed at the end. -/
example : ofLine? "\u3000mkdir\t\u00a0a b\n" = some ⟨"mkdir", ["a", "b"]⟩ := by decide

end MemShell.Invocation
