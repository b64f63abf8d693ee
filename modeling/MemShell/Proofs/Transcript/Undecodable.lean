import MemShell.Proofs.Text.Lines
import MemShell.Proofs.Transcript.Reading

/-!
# Input that is not UTF-8

A line that is not UTF-8 ends the transcript where the end of the input would end it: with a read
that finds no line. So input that is cut by such a line is read as the lines before it alone would
be, but for how reading ends (`takeLines_cut`), and the transcripts differ in the line end after the
last prompt (`run_undecodable`). It does not matter whether the editor is open by then, nor what the
bytes are and what follows them.
-/

namespace MemShell.Transcript

open Text (bytesOfLines linesOfBytes Undecodable)

/-- The lines behind one that is not UTF-8 are not looked at. -/
theorem takeLines_cut (st : State) (lines : List String) (rest : List (Option String)) :
    let whole := takeLines st (lines.map some)
    takeLines st (lines.map some ++ none :: rest) =
      ⟨(whole.value.1, .undecodable), whole.state, whole.events⟩ := by
  induction lines generalizing st with
  | nil => rfl
  | cons line lines ih =>
    simp only [List.map_cons, List.cons_append, takeLines, ih]

theorem text_of_closed {t : Transcript} (h : t.ending = .closed) :
    t.text = { t with ending := .undecodable }.text ++ "\n" := by
  rw [text, text, h, String.append_empty]

/-- If input that is not UTF-8 follows complete lines, then reading fails, but the session is left
as the lines alone leave it, and the transcript is theirs without the line end after the last
prompt. Any other input that is not UTF-8 would do the same in its place. -/
theorem run_undecodable (s : Session) {lines : List String}
    (hlines : ∀ line ∈ lines, '\n' ∉ line.toList) {bad : List UInt8} (hbad : Undecodable bad) :
    let whole := run s (linesOfBytes (bytesOfLines lines))
    let cut := run s (linesOfBytes (bytesOfLines lines ++ bad))
    whole.value.ending = .closed ∧ cut.value.ending = .undecodable ∧
      cut.state = whole.state ∧ cut.events = whole.events ∧
      whole.value.text = cut.value.text ++ "\n" ∧
      ∀ other, Undecodable other →
        run s (linesOfBytes (bytesOfLines lines ++ other)) = cut := by
  intro whole cut
  have hclosed : whole.value.ending = .closed := by
    simp only [whole, Text.linesOfBytes_bytesOfLines hlines]
    exact (takeLines_ending ⟨s, false⟩ _).trans (if_neg (by simp))
  have hcut : ∀ other, Undecodable other →
      run s (linesOfBytes (bytesOfLines lines ++ other)) =
        ⟨{ whole.value with ending := .undecodable }, whole.state, whole.events⟩ := by
    intro other hother
    obtain ⟨rest, hrest⟩ := Text.linesOfBytes_of_undecodable hother
    simp only [whole, Text.linesOfBytes_bytesOfLines hlines,
      Text.linesOfBytes_bytesOfLines_append hlines, hrest, run, takeLines_cut]
  have hbadCut : cut = ⟨{ whole.value with ending := .undecodable }, whole.state, whole.events⟩ :=
    hcut bad hbad
  rw [hbadCut]
  exact ⟨hclosed, rfl, rfl, rfl, text_of_closed hclosed, hcut⟩

/-- The bytes are not UTF-8 while the editor holds a line that was never saved; the line behind them
would save it. -/
theorem run_undecodable_unsaved :
    let lines := ["nano notes", "kept"]
    let bad : List UInt8 := [0x6e, 0xff, 0x0a] ++ bytesOfLines ["^S"]
    let s := (Session.start .standard).state
    let whole := run s (linesOfBytes (bytesOfLines lines))
    let cut := run s (linesOfBytes (bytesOfLines lines ++ bad))
    (∀ line ∈ lines, '\n' ∉ line.toList) ∧ Undecodable bad ∧
      cut.value.ending = .undecodable ∧ whole.value.text = cut.value.text ++ "\n" ∧
      cut.state.mode = .editing ⟨"/", "notes", "kept", none⟩ ∧
      cut.state.fs.content "/" "notes" = .ok "" := by
  intro lines bad s whole cut
  have hlines : ∀ line ∈ lines, '\n' ∉ line.toList := by decide
  have hbad : Undecodable bad := by decide +kernel
  obtain ⟨-, hending, hstate, -, htext, -⟩ := run_undecodable s hlines hbad
  have hcut : cut.state = whole.state := hstate
  have hread : linesOfBytes (bytesOfLines lines) = (lines.map Text.withoutReturn).map some :=
    Text.linesOfBytes_bytesOfLines hlines
  have hwhole : whole.state = (run s ((lines.map Text.withoutReturn).map some)).state := by
    rw [← hread]
  rw [hcut, hwhole]
  refine ⟨hlines, hbad, hending, htext, ?_, ?_⟩
  · decide +kernel
  · decide +kernel

end MemShell.Transcript
