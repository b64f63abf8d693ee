import MemShell.Proofs.Session.View
import MemShell.Proofs.Terminal.Action
import MemShell.Proofs.Text.Lines
import MemShell.Proofs.Transcript.Reading

/-!
# Two front ends, one shell

The same lines can be read from a byte stream by the line-oriented front end or submitted one by one
to the terminal of the page. As long as none of them opens the editor, the two hold the same session
but for the view (`Agree`). A step keeps this (`Agree.step`) because a line is told by its words and
its trimmed text (`Session.submit_congr`), where a carriage return at the end does not show, and
because what a line does is the same in every view. In the end only a call of `startx` tells the two
apart, which is left at once by the one and stays on the other (`front_ends_agree`).
-/

namespace MemShell

namespace Terminal

theorem act_submit_session (t : Terminal) (line : String) :
    (t.act (.submit line)).state.session = (t.session.submit line).state := rfl

end Terminal

namespace Transcript

open Session (callsDesktop)

/-- Both front ends hold one session, each in a view of its own. They began in the given view, and
the desktop was called or not. -/
structure Agree (view : View) (desktop : Bool) (st : State) (t : Terminal) : Prop where
  mode : st.session.mode = .prompting
  shown : st.session.view = if desktop then .terminal else view
  session : t.session = st.session.setView (if desktop then .desktop else view)

namespace Agree

variable {view : View} {desktop : Bool} {st : State} {t : Terminal}

/-- A line that does not open the editor has the same effect on both sides, where one side may read
it with other blanks around it. -/
theorem step (h : Agree view desktop st t) {line read : String}
    (hline : (Text.words line).head? ≠ some "nano") (hwords : Text.words read = Text.words line)
    (htrim : Text.trim read = Text.trim line) :
    Agree view (desktop || callsDesktop line) (takeLine st read).state
      (t.act (.submit line)).state := by
  have hread : st.session.submit read = st.session.submit line :=
    Session.submit_congr h.mode hwords htrim
  have hcalls : callsDesktop read = callsDesktop line := by
    rw [callsDesktop, hwords, callsDesktop]
  have hasks := Session.view_submit h.mode line
  constructor
  · rw [takeLine_of_prompting h.mode, commandLine_session h.mode, hread]
    exact Session.submit_prompting h.mode hline
  · rw [takeLine_of_prompting h.mode, commandLine_session h.mode, hcalls, h.shown]
    cases callsDesktop line with
    | true => simp [Session.setView]
    | false => simp [Session.setView]
  · -- The page submits to the session that is read for, in a view of its own.
    rw [Terminal.act_submit_session, h.session, Session.submit_setView,
      takeLine_of_prompting h.mode, commandLine_session h.mode, hread, hcalls, hasks]
    cases callsDesktop line with
    | true => simp [Session.inView, Session.setView]
    | false => simp [Session.inView, Session.setView]

theorem run (h : Agree view desktop st t) {ended : List (String × Text.LineEnd)}
    (hnano : ∀ line ∈ ended, (Text.words line.1).head? ≠ some "nano") :
    Agree view (desktop || ended.any fun line => callsDesktop line.1)
      (Run.state takeLine st ((ended.map Text.beforeFeed).map Text.withoutReturn))
      (Run.state Terminal.act t (ended.map fun line => .submit line.1)) := by
  induction ended generalizing desktop st t with
  | nil => simpa using h
  | cons line ended ih =>
    obtain ⟨hline, hrest⟩ := List.forall_mem_cons.1 hnano
    have hstep := h.step hline (Text.words_beforeFeed line) (Text.trim_beforeFeed line)
    rw [List.any_cons, ← Bool.or_assoc]
    exact ih hstep hrest

end Agree

/-- Lines that do not open the editor lead both front ends from one session at the prompt to one
session, however the lines end in the byte stream. Only the view may differ, and only if the
desktop was called: then one is back in the terminal and the other on the desktop. -/
theorem front_ends_agree {s : Session} (hmode : s.mode = .prompting) (history : History)
    {ended : List (String × Text.LineEnd)}
    (hlines : ∀ line ∈ ended,
      '\n' ∉ line.1.toList ∧ (Text.words line.1).head? ≠ some "nano") :
    let read := (Transcript.run s (Text.linesOfBytes (Text.bytesOfEnded ended))).state
    let page := (Run.state Terminal.act ⟨s, history⟩
      (ended.map fun line => .submit line.1)).session
    let desktop := ended.any fun line => callsDesktop line.1
    (page.fs = read.fs ∧ page.cwd = read.cwd ∧ page.mode = read.mode ∧ page.log = read.log ∧
      page.settings = read.settings) ∧
      read.mode = .prompting ∧
      read.view = (if desktop then .terminal else s.view) ∧
      page.view = (if desktop then .desktop else s.view) := by
  intro read page desktop
  have hbegin : Agree s.view false ⟨s, false⟩ ⟨s, history⟩ := ⟨hmode, rfl, rfl⟩
  have hend := hbegin.run fun line hline => (hlines line hline).2
  rw [Bool.false_or] at hend
  have hread : read = (Run.state takeLine ⟨s, false⟩
      ((ended.map Text.beforeFeed).map Text.withoutReturn)).session := by
    have hfree := fun line hline => (hlines line hline).1
    simp only [read, Transcript.run, Text.linesOfBytes_bytesOfEnded hfree, takeLines_state,
      readable_map_some]
  have hpage : page = read.setView (if desktop then .desktop else s.view) := by
    rw [hread]
    exact hend.session
  refine ⟨?_, ?_, ?_, ?_⟩
  · rw [hpage]
    exact ⟨rfl, rfl, rfl, rfl, rfl⟩
  · rw [hread]
    exact hend.mode
  · rw [hread]
    exact hend.shown
  · rw [hpage]
    rfl

/-- A carriage return is part of a line or of its end, blanks of all kinds stand around the words,
and the desktop is called between two commands. -/
theorem front_ends_agree_desktop :
    let s := (Session.start .standard).state
    let ended : List (String × Text.LineEnd) :=
      [("cd\u00a0home\r", .returnFeed), ("\u3000startx now", .feed), ("", .returnFeed),
        ("mkdir attic nano\r", .feed)]
    let read := (Transcript.run s (Text.linesOfBytes (Text.bytesOfEnded ended))).state
    let page := (Run.state Terminal.act ⟨s, .empty⟩
      (ended.map fun line => .submit line.1)).session
    s.mode = .prompting ∧
      (∀ line ∈ ended, '\n' ∉ line.1.toList ∧ (Text.words line.1).head? ≠ some "nano") ∧
      page.fs = read.fs ∧ page.log = read.log ∧ read.view = .terminal ∧ page.view = .desktop := by
  intro s ended read page
  have hmode : s.mode = .prompting := rfl
  have hlines : ∀ line ∈ ended,
      '\n' ∉ line.1.toList ∧ (Text.words line.1).head? ≠ some "nano" := by decide
  obtain ⟨⟨hfs, -, -, hlog, -⟩, -, hread, hpage⟩ := front_ends_agree hmode .empty hlines
  exact ⟨hmode, hlines, hfs, hlog, hread, hpage⟩

end Transcript

end MemShell
