import MemShell.Proofs.Desktop.Icons
import MemShell.Proofs.Page.Modes

/-!
# Nothing is dragged that is not shown

What is dragged, which icons there are and which folder is open are kept apart on the desktop, and
each is changed by listeners of its own. A drag still never outlives what it drags: icons are added
at the end and none is ever taken away, and only the close button takes the window away, which ends
the drag as well. `Acted` lists what becomes of a desktop when a listener acts on it, and what is
dragged goes on being shown if the listener has what it stands on (`Acted.dragsShown`). The page
sees to that, since it listens only where something is shown (`listensOn_markup`), and no event both
pulls at the window and closes it (`Reacting.acted`). So it is along every run of listeners that
have what they stand on (`drag_target_shown`), and after all that can be done to the page
(`dragsShown_after`).
-/

namespace MemShell

open Markup

namespace Desktop

theorem drag_pointerMoved (d : Desktop Float) (pointer : Point Float) (viewport : Size Float) :
    (d.pointerMoved pointer viewport).drag = d.drag := by
  unfold pointerMoved
  split <;> rfl

theorem openFolder_pointerMoved (d : Desktop Float) (pointer : Point Float)
    (viewport : Size Float) : (d.pointerMoved pointer viewport).openFolder = d.openFolder := by
  unfold pointerMoved
  split <;> rfl

/-- What is dragged is there: the icon, or, for the window and its handle, a window. -/
structure DragsShown (d : Desktop Float) : Prop where
  icon : ∀ index, d.drag = some (.icon index) → index < d.icons.length
  window : ∀ grab, d.drag = some (.window grab) → d.openFolder ≠ none
  handle : d.drag = some .resize → d.openFolder ≠ none

theorem DragsShown.of_none {d : Desktop Float} (h : d.drag = none) : d.DragsShown :=
  ⟨fun _ hdrag => (nomatch h.symm.trans hdrag), fun _ hdrag => (nomatch h.symm.trans hdrag),
    fun hdrag => (nomatch h.symm.trans hdrag)⟩

end Desktop

/-- The desktop has what the listener belongs to: the icon, or a window. -/
def Handler.StandsOn (d : Desktop Float) : Handler → Prop
  | .pressIcon index => index < d.icons.length
  | .openFolder name => name ∈ d.names
  | .pressTitle | .pressHandle | .closeWindow => d.openFolder ≠ none
  | .focusInput | .promptTyped | .promptKey | .editorTyped | .editorKey | .movePointer | .release
  | .openMenu | .closeMenu | .backToTerminal | .newFolder | .absorb => True

instance (d : Desktop Float) : (handler : Handler) → Decidable (handler.StandsOn d)
  | .pressIcon index => inferInstanceAs (Decidable (index < d.icons.length))
  | .openFolder name => inferInstanceAs (Decidable (name ∈ d.names))
  | .pressTitle | .pressHandle | .closeWindow => inferInstanceAs (Decidable (d.openFolder ≠ none))
  | .focusInput | .promptTyped | .promptKey | .editorTyped | .editorKey | .movePointer | .release
  | .openMenu | .closeMenu | .backToTerminal | .newFolder | .absorb => .isTrue trivial

/-- The listeners that pull at the window and the one that closes it do not listen for the same kind
of event. -/
def Handler.ListensFor (kind : String) : Handler → Prop
  | .pressTitle | .pressHandle => kind = "mousedown"
  | .closeWindow => kind = "click"
  | .focusInput | .promptTyped | .promptKey | .editorTyped | .editorKey | .movePointer | .release
  | .openMenu | .closeMenu | .backToTerminal | .pressIcon _ | .openFolder _ | .newFolder
  | .absorb => True

namespace Page

/-! ## A listener acts -/

/-- What becomes of a desktop when a listener acts on it. -/
inductive Acted (d : Desktop Float) : Handler → Desktop Float → Prop
  | kept {handler : Handler} {e : Desktop Float} (names : d.names <+: e.names)
      (drag : e.drag = d.drag) (openFolder : e.openFolder = d.openFolder) : Acted d handler e
  | released : Acted d .release d.release
  | pressedIcon (index : Nat) : Acted d (.pressIcon index) (d.grabIcon index)
  | openedFolder (name : String) : Acted d (.openFolder name) (d.openWindow name).state
  | pressedTitle (pointer : Point Float) : Acted d .pressTitle (d.grabWindow pointer)
  | pressedHandle : Acted d .pressHandle d.grabHandle
  | closedWindow : Acted d .closeWindow d.closeWindow

namespace Acted

variable {d e : Desktop Float} {handler : Handler}

/-- An icon that is shown goes on being shown, at the same index. -/
theorem names_prefix (h : Acted d handler e) : d.names <+: e.names := by
  cases h with
  | kept names drag openFolder => exact names
  | released | pressedIcon | openedFolder | pressedTitle | pressedHandle | closedWindow =>
    exact List.prefix_refl d.names

theorem length_icons_le (h : Acted d handler e) : d.icons.length ≤ e.icons.length := by
  have hlength := h.names_prefix.length_le
  rwa [Desktop.names, Desktop.names, List.length_map, List.length_map] at hlength

/-- Only the close button closes the window. -/
theorem openFolder_ne_none (h : Acted d handler e) (hclose : handler ≠ .closeWindow)
    (hopen : d.openFolder ≠ none) : e.openFolder ≠ none := by
  cases h with
  | kept names drag openFolder =>
    rw [openFolder]
    exact hopen
  | openedFolder name => exact Option.some_ne_none name
  | closedWindow => exact absurd rfl hclose
  | released | pressedIcon | pressedTitle | pressedHandle => exact hopen

/-- A drag does not outlive what it drags. A window can be closed that is not there. -/
theorem dragsShown (h : Acted d handler e) (hshown : d.DragsShown)
    (hstands : handler ≠ .closeWindow → handler.StandsOn d) : e.DragsShown := by
  have hlength := h.length_icons_le
  cases h with
  | kept names drag openFolder =>
    constructor
    · intro index hindex
      exact (hshown.icon index (drag ▸ hindex)).trans_le hlength
    · intro grab hgrab
      rw [openFolder]
      exact hshown.window grab (drag ▸ hgrab)
    · intro hresize
      rw [openFolder]
      exact hshown.handle (drag ▸ hresize)
  | released => exact .of_none rfl
  | closedWindow => exact .of_none rfl
  | pressedIcon index =>
    refine ⟨fun other hother => ?_, nofun, nofun⟩
    cases hother
    exact hstands nofun
  | openedFolder name =>
    exact ⟨hshown.icon, fun _ _ => Option.some_ne_none name, fun _ => Option.some_ne_none name⟩
  | pressedTitle pointer => exact ⟨nofun, fun _ _ => hstands nofun, nofun⟩
  | pressedHandle => exact ⟨nofun, nofun, fun _ => hstands nofun⟩

/-- What another listener stands on is still there, unless that is the window and it is closed. -/
theorem standsOn (h : Acted d handler e) {other : Handler} (hstands : other.StandsOn d)
    (hother : other ≠ .closeWindow)
    (hopen : other = .pressTitle ∨ other = .pressHandle → handler ≠ .closeWindow) :
    other.StandsOn e := by
  cases other with
  | pressIcon index => exact Nat.lt_of_lt_of_le hstands h.length_icons_le
  | openFolder name => exact h.names_prefix.subset hstands
  | pressTitle => exact h.openFolder_ne_none (hopen (.inl rfl)) hstands
  | pressHandle => exact h.openFolder_ne_none (hopen (.inr rfl)) hstands
  | closeWindow => exact absurd rfl hother
  | focusInput | promptTyped | promptKey | editorTyped | editorKey | movePointer | release
  | openMenu | closeMenu | backToTerminal | newFolder | absorb => exact trivial

end Acted

variable {p : Page} {o : Occurrence} {d : Desktop Float}

/-- A new folder, if there is one, has its icon behind the others. -/
theorem newFolder_acted (p : Page) (d : Desktop Float) :
    ∃ e, ((p.setDesktop d).newFolder d).1.screen = .desktop e ∧ Acted d .newFolder e := by
  have hkept : Acted d .newFolder d := .kept (List.prefix_refl d.names) rfl rfl
  unfold newFolder
  dsimp only
  split
  · exact ⟨d, rfl, hkept⟩
  · exact ⟨d, rfl, hkept⟩
  · next name _ _ =>
    split
    · next made hmade =>
      unfold Desktop.createFolder at hmade
      split at hmade
      · cases hmade
        refine ⟨_, rfl, .kept ?_ rfl rfl⟩
        rw [Desktop.names_addIcon]
        exact List.prefix_append d.names _
      · cases hmade
    · exact ⟨d, rfl, hkept⟩

theorem handle_acted (hscreen : p.screen = .desktop d) (handler : Handler) :
    ∃ e, (p.handle o handler).1.screen = .desktop e ∧ Acted d handler e := by
  have hkept : d.names <+: d.names := List.prefix_refl d.names
  rw [handle_of_desktop hscreen]
  cases handler with
  | movePointer =>
    have hnames : d.names <+: (d.pointerMoved o.pointer p.browser.viewportOrStandard).names :=
      ⟨[], by rw [Desktop.names_pointerMoved, List.append_nil]⟩
    exact ⟨_, rfl, .kept hnames (d.drag_pointerMoved _ _) (d.openFolder_pointerMoved _ _)⟩
  | release => exact ⟨_, rfl, .released⟩
  | openMenu => exact ⟨_, rfl, .kept hkept rfl rfl⟩
  | closeMenu => exact ⟨_, rfl, .kept hkept rfl rfl⟩
  | pressIcon index =>
    rw [handleDesktop]
    split
    · exact ⟨_, rfl, .pressedIcon index⟩
    · exact ⟨d, hscreen, .kept hkept rfl rfl⟩
  | openFolder name => exact ⟨_, rfl, .openedFolder name⟩
  | pressTitle => exact ⟨_, rfl, .pressedTitle o.pointer⟩
  | pressHandle => exact ⟨_, rfl, .pressedHandle⟩
  | closeWindow => exact ⟨_, rfl, .closedWindow⟩
  | newFolder =>
    -- The menu is closed first, which changes nothing that matters here.
    obtain ⟨e, hnext, hacted⟩ := p.newFolder_acted { d with menu := none }
    refine ⟨e, hnext, ?_⟩
    cases hacted with
    | kept names drag openFolder => exact .kept names drag openFolder
  | backToTerminal | absorb | focusInput | promptTyped | promptKey | editorTyped | editorKey =>
    exact ⟨d, hscreen, .kept hkept rfl rfl⟩

/-! ## Listeners act one after the other -/

/-- A listener hears of an event, with the browser as it is by then. -/
structure Hearing where
  browser : Browser
  occurrence : Occurrence
  handler : Handler

/-- The listener acts. The answer is what happens around the page. -/
def hear (p : Page) (hearing : Hearing) : Outcome Page (List Effect) :=
  let (next, effects) := { p with browser := hearing.browser }.handle hearing.occurrence
    hearing.handler
  ⟨effects, next, effects.filterMap Effect.event?⟩

/-- The listener has what it stands on, if the desktop is shown. -/
def Hearing.StandsOn (p : Page) (hearing : Hearing) : Prop :=
  match p.screen with
  | .desktop d => hearing.handler.StandsOn d
  | .prompt _ | .editor => True

instance (p : Page) (hearing : Hearing) : Decidable (hearing.StandsOn p) :=
  match hscreen : p.screen with
  | .desktop d => decidable_of_iff (hearing.handler.StandsOn d) (by rw [Hearing.StandsOn, hscreen])
  | .prompt _ => .isTrue (by rw [Hearing.StandsOn, hscreen]; trivial)
  | .editor => .isTrue (by rw [Hearing.StandsOn, hscreen]; trivial)

theorem hear_acted (hscreen : p.screen = .desktop d) (hearing : Hearing) :
    ∃ e, (p.hear hearing).state.screen = .desktop e ∧ Acted d hearing.handler e :=
  handle_acted (p := { p with browser := hearing.browser }) hscreen hearing.handler

/-- Whatever is heard, the icons that are shown go on being shown. -/
theorem names_run (hscreen : p.screen = .desktop d) (hearings : List Hearing) :
    ∃ e, (Run.state hear p hearings).screen = .desktop e ∧ d.names <+: e.names := by
  refine Run.invariant (P := fun p : Page => ∃ e, p.screen = .desktop e ∧ d.names <+: e.names)
    (fun p hearing => ?_) ⟨d, hscreen, List.prefix_refl d.names⟩ hearings
  rintro ⟨e, he, hnames⟩
  obtain ⟨next, hnext, hacted⟩ := hear_acted he hearing
  exact ⟨next, hnext, hnames.trans hacted.names_prefix⟩

theorem dragsShown_hear {hearing : Hearing} (hstands : hearing.StandsOn p)
    (h : ∃ d, p.screen = .desktop d ∧ d.DragsShown) :
    ∃ e, (p.hear hearing).state.screen = .desktop e ∧ e.DragsShown := by
  obtain ⟨d, hscreen, hshown⟩ := h
  obtain ⟨e, hnext, hacted⟩ := hear_acted hscreen hearing
  rw [Hearing.StandsOn, hscreen] at hstands
  exact ⟨e, hnext, hacted.dragsShown hshown fun _ => hstands⟩

/-! ## What the page listens for -/

/-- Where the desktop listens, what it listens for is shown. -/
structure ListensOn (d : Desktop Float) (heard : String × Handler) : Prop where
  stands : heard.2.StandsOn d
  kind : heard.2.ListensFor heard.1

theorem listensOn_iconNode {index : Nat} (hindex : index < d.icons.length) :
    ∀ heard ∈ (iconNode d index d.icons[index]).listeners, ListensOn d heard := by
  have hname : d.icons[index].name ∈ d.names := List.mem_map_of_mem (List.getElem_mem hindex)
  have hpress : ListensOn d ("mousedown", .pressIcon index) := ⟨hindex, trivial⟩
  have hopen : ListensOn d ("dblclick", .openFolder d.icons[index].name) := ⟨hname, trivial⟩
  exact List.forall_mem_cons.2 ⟨hpress, List.forall_mem_singleton.2 hopen⟩

theorem listensOn_windowNode (s : Session) {folder : String} (hopen : d.openFolder = some folder) :
    ∀ heard ∈ (windowNode s d folder).listeners, ListensOn d heard := by
  have hwindow : d.openFolder ≠ none := by
    rw [hopen]
    exact Option.some_ne_none folder
  rw [listeners_windowNode]
  simp only [List.forall_mem_cons]
  exact ⟨⟨trivial, trivial⟩, ⟨hwindow, rfl⟩, ⟨trivial, trivial⟩, ⟨hwindow, rfl⟩, ⟨hwindow, rfl⟩,
    List.forall_mem_nil _⟩

theorem listensOn_menuNode (place : Point Float) :
    ∀ heard ∈ (menuNode place).listeners, ListensOn d heard := by
  have hmenu : (menuNode place).listeners = [("mousedown", .absorb), ("click", .newFolder)] := rfl
  rw [hmenu]
  simp only [List.forall_mem_cons]
  exact ⟨⟨trivial, trivial⟩, ⟨trivial, trivial⟩, List.forall_mem_nil _⟩

theorem listensOn_desktopNode (s : Session) (d : Desktop Float) :
    ∀ heard ∈ (desktopNode s d).listeners, ListensOn d heard := by
  intro heard hheard
  rw [desktopNode, live, listeners_element, List.mem_append, List.mem_flatMap] at hheard
  obtain hown | ⟨node, hnode, hheard⟩ := hheard
  · revert heard
    simp only [List.forall_mem_cons]
    exact ⟨⟨trivial, trivial⟩, ⟨trivial, trivial⟩, ⟨trivial, trivial⟩, ⟨trivial, trivial⟩,
      ⟨trivial, trivial⟩, List.forall_mem_nil _⟩
  · simp only [List.mem_append, List.mem_mapIdx, Option.mem_toList, Option.map_eq_some_iff,
      List.mem_singleton] at hnode
    obtain ((⟨index, hindex, rfl⟩ | ⟨folder, hopen, rfl⟩) | ⟨place, -, rfl⟩) | rfl := hnode
    · exact listensOn_iconNode hindex heard hheard
    · exact listensOn_windowNode s hopen heard hheard
    · exact listensOn_menuNode place heard hheard
    · rw [List.mem_singleton.1 hheard]
      exact ⟨trivial, trivial⟩

theorem listensOn_markup (hscreen : p.screen = .desktop d) :
    ∀ heard ∈ p.markup.listeners, ListensOn d heard := by
  have hmarkup : p.markup.listeners = (desktopNode p.session d).listeners := by
    rw [markup, plain, listeners_element, List.flatMap_singleton, div, plain, listeners_element,
      List.flatMap_singleton, screenNode, hscreen]
    rfl
  rw [hmarkup]
  exact listensOn_desktopNode p.session d

/-! ## Runs of listeners -/

/-- As long as each listener that hears of something has what it stands on, an icon that is dragged
is one of the icons and stays, whatever is heard from then on, the icon of its name, and the window
and its handle are dragged only while a folder is open. The page that is shown then listens with no
listener that has nothing to stand on. -/
theorem drag_target_shown (p : Page) {hearings : List Hearing}
    (hmet : ∀ met ∈ Run.steps hear p.mountDesktop hearings, met.2.StandsOn met.1) :
    let reached := Run.state hear p.mountDesktop hearings
    ∃ d, reached.screen = .desktop d ∧
      (∀ index, d.drag = some (.icon index) →
        index < d.icons.length ∧ ∀ later : List Hearing, ∃ e,
          (Run.state hear reached later).screen = .desktop e ∧
            e.icons[index]?.map (·.name) = d.icons[index]?.map (·.name)) ∧
      (∀ grab, d.drag = some (.window grab) → d.openFolder ≠ none) ∧
      (d.drag = some .resize → d.openFolder ≠ none) ∧
      ∀ handler ∈ reached.markup.handlers, handler.StandsOn d := by
  intro reached
  have hstart : ∃ d, p.mountDesktop.screen = .desktop d ∧ d.DragsShown := ⟨_, rfl, .of_none rfl⟩
  have hstep : ∀ (p : Page) (hearing : Hearing), hearing.StandsOn p →
      (∃ d, p.screen = .desktop d ∧ d.DragsShown) →
      ∃ e, (p.hear hearing).state.screen = .desktop e ∧ e.DragsShown :=
    fun _ _ hstands h => dragsShown_hear hstands h
  obtain ⟨d, hscreen, hshown⟩ : ∃ d, reached.screen = .desktop d ∧ d.DragsShown :=
    Run.invariant_of_met hstep hstart hmet
  refine ⟨d, hscreen, fun index hdrag => ⟨hshown.icon index hdrag, fun later => ?_⟩,
    hshown.window, hshown.handle, fun handler hhandler => ?_⟩
  · obtain ⟨e, hend, hnames⟩ := names_run hscreen later
    have hindex : index < d.names.length := by
      rw [Desktop.names, List.length_map]
      exact hshown.icon index hdrag
    refine ⟨e, hend, ?_⟩
    obtain ⟨more, hmore⟩ := hnames
    calc e.icons[index]?.map (·.name) = e.names[index]? := List.getElem?_map.symm
      _ = d.names[index]? := by rw [← hmore, List.getElem?_append_left hindex]
      _ = d.icons[index]?.map (·.name) := List.getElem?_map
  · rw [handlers_eq] at hhandler
    obtain ⟨heard, hheard, rfl⟩ := List.mem_map.1 hhandler
    exact (listensOn_markup hscreen heard hheard).stands

/-- While the window is dragged a folder is made and another one is opened in its place. Then the
icon of the new folder is pressed, and it is still this icon once a third folder is made and the
window is closed. -/
theorem drag_target_shown_replaced :
    let happens (answer : String) (handler : Handler) : Hearing :=
      ⟨⟨none, ⟨[], 0⟩, [some answer]⟩, ⟨"", "", false, false, ⟨0, 0⟩, 0, ""⟩, handler⟩
    let opened : List Hearing :=
      [happens "photos" .newFolder, happens "" (.openFolder "photos"), happens "" .pressTitle,
        happens "videos" .newFolder, happens "" (.openFolder "videos"), happens "" .movePointer]
    let p := (load ⟨none, ⟨[], 0⟩, []⟩).1
    let reached := Run.state hear p.mountDesktop (opened ++ [happens "" (.pressIcon 1)])
    let later := Run.state hear reached [happens "music" .newFolder, happens "" .closeWindow]
    (∀ met ∈ Run.steps hear p.mountDesktop (opened ++ [happens "" (.pressIcon 1)]),
        met.2.StandsOn met.1) ∧
      (∃ d grab, (Run.state hear p.mountDesktop opened).screen = .desktop d ∧
        d.drag = some (.window grab) ∧ d.openFolder ≠ none) ∧
      ∃ d e, reached.screen = .desktop d ∧ d.drag = some (.icon 1) ∧ 1 < d.icons.length ∧
        later.screen = .desktop e ∧ d.icons[1]?.map (·.name) = some "videos" ∧
        e.icons[1]?.map (·.name) = some "videos" := by
  intro happens opened p reached later
  have hmet : ∀ met ∈ Run.steps hear p.mountDesktop (opened ++ [happens "" (.pressIcon 1)]),
      met.2.StandsOn met.1 := by
    decide +kernel
  have hopened : ∀ met ∈ Run.steps hear p.mountDesktop opened, met.2.StandsOn met.1 := by
    rw [Run.steps_append] at hmet
    exact fun met hmem => hmet met (List.mem_append_left _ hmem)
  have hpulled : ∃ d grab, (Run.state hear p.mountDesktop opened).screen = .desktop d ∧
      d.drag = some (.window grab) := ⟨_, _, rfl, rfl⟩
  have hpressed : ∃ d, reached.screen = .desktop d ∧ d.drag = some (.icon 1) ∧
      d.icons[1]?.map (·.name) = some "videos" := ⟨_, rfl, rfl, rfl⟩
  refine ⟨hmet, ?_, ?_⟩
  · obtain ⟨d, grab, hscreen, hdrag⟩ := hpulled
    obtain ⟨shown, hshown, -, hwindow, -⟩ := drag_target_shown p hopened
    obtain rfl : shown = d := Screen.desktop.inj (hshown.symm.trans hscreen)
    exact ⟨shown, grab, hscreen, hdrag, hwindow grab hdrag⟩
  · obtain ⟨d, hscreen, hdrag, hname⟩ := hpressed
    obtain ⟨shown, hshown, hicon, -⟩ := drag_target_shown p hmet
    obtain rfl : shown = d := Screen.desktop.inj (hshown.symm.trans hscreen)
    obtain ⟨hindex, hlater⟩ := hicon 1 hdrag
    obtain ⟨e, hend, hsame⟩ := hlater [happens "music" .newFolder, happens "" .closeWindow]
    exact ⟨shown, e, hscreen, hdrag, hindex, hend, hname, hsame.trans hname⟩

/-! ## Whole events -/

/-- What holds of a desktop while an event of the kind is handled, where `rest` are the listeners
that have yet to act. Among them the close button may not have its window any more. -/
structure Reacting (kind : String) (rest : List Handler) (d : Desktop Float) : Prop where
  shown : d.DragsShown
  stands : ∀ handler ∈ rest, handler ≠ .closeWindow → handler.StandsOn d
  kinds : ∀ handler ∈ rest, handler.ListensFor kind

theorem Reacting.acted {kind : String} {handler : Handler} {rest : List Handler}
    {d e : Desktop Float} (h : Reacting kind (handler :: rest) d) (hacted : Acted d handler e) :
    Reacting kind rest e := by
  refine ⟨hacted.dragsShown h.shown (h.stands handler List.mem_cons_self),
    fun other hother hne => ?_, fun other hother => h.kinds other (List.mem_cons_of_mem _ hother)⟩
  have hmem := List.mem_cons_of_mem handler hother
  refine hacted.standsOn (h.stands other hmem hne) hne fun hpulls => ?_
  -- The window is not closed by an event of the kind that pulls at it.
  rintro rfl
  have hclick : kind = "click" := h.kinds .closeWindow List.mem_cons_self
  have hmouse : kind = "mousedown" := by
    rcases hpulls with rfl | rfl
    · exact h.kinds .pressTitle hmem
    · exact h.kinds .pressHandle hmem
  exact absurd (hclick.symm.trans hmouse) (by decide)

/-- If the desktop is shown, what is dragged on it is there. -/
def DragsShown (p : Page) : Prop := ∀ d, p.screen = .desktop d → d.DragsShown

theorem reacting_handle {kind : String} {handler : Handler} {rest : List Handler}
    (h : ∀ d, p.screen = .desktop d → Reacting kind (handler :: rest) d) :
    ∀ e, (p.handle o handler).1.screen = .desktop e → Reacting kind rest e := by
  intro e he
  have hkind := p.handle_kind o handler
  cases hscreen : p.screen with
  | desktop d =>
    obtain ⟨next, hnext, hacted⟩ := handle_acted (o := o) hscreen handler
    obtain rfl : next = e := Screen.desktop.inj (hnext.symm.trans he)
    exact (h d hscreen).acted hacted
  | prompt draft =>
    rw [he, hscreen] at hkind
    cases hkind
  | editor =>
    rw [he, hscreen] at hkind
    cases hkind

theorem reacting_handleAll {kind : String} {handlers rest : List Handler}
    (h : ∀ d, p.screen = .desktop d → Reacting kind (handlers ++ rest) d) :
    ∀ e, (p.handleAll o handlers).1.screen = .desktop e → Reacting kind rest e := by
  induction handlers generalizing p with
  | nil => exact h
  | cons handler handlers ih => exact ih (reacting_handle h)

theorem dragsShown_bubble {kind : String} {hearers : List (List Handler)}
    (h : ∀ d, p.screen = .desktop d → Reacting kind hearers.flatten d) :
    (p.bubble o hearers).1.DragsShown := by
  induction hearers generalizing p with
  | nil => exact fun d hscreen => (h d hscreen).shown
  | cons handlers outer ih =>
    have hnext := reacting_handleAll (o := o) h
    rw [bubble]
    dsimp only
    split
    · exact fun e he => (hnext e he).shown
    · exact ih hnext

/-- A desktop that is shown anew is dragged nowhere. -/
theorem dragsShown_settle (h : p.DragsShown) : p.settle.1.DragsShown := by
  rw [settle]
  split
  · exact h
  · intro d hscreen
    cases hkind : p.session.screenKind with
    | prompt =>
      rw [hkind] at hscreen
      cases hscreen
    | editor =>
      rw [hkind] at hscreen
      cases hscreen
    | desktop =>
      rw [hkind] at hscreen
      cases hscreen
      exact .of_none rfl

theorem DragsShown.act (h : p.DragsShown) (action : Action) : (p.act action).state.DragsShown := by
  cases action with
  | occur occurrence name count =>
    rw [Page.act]
    split
    · exact h
    · next lineage htarget =>
      have hreacting : ∀ d, p.screen = .desktop d →
          Reacting occurrence.kind (hearers occurrence.kind lineage).flatten d := by
        intro d hscreen
        have hlistens : ∀ handler ∈ (hearers occurrence.kind lineage).flatten,
            ListensOn d (occurrence.kind, handler) := fun handler hhandler =>
          listensOn_markup hscreen _ (mem_listeners_of_mem_hearers htarget hhandler)
        exact ⟨h d hscreen, fun handler hmem _ => (hlistens handler hmem).stands,
          fun handler hmem => (hlistens handler hmem).kind⟩
      exact dragsShown_settle (dragsShown_bubble hreacting)
  | elapse =>
    rw [Page.act, elapse]
    split
    · exact h
    · exact h
  | surround browser => exact h

/-- Whatever is done to the page, nothing is dragged on its desktop that is not shown there. -/
theorem dragsShown_after (browser : Browser) (actions : List Action) :
    (after browser actions).DragsShown := by
  have hload : (load browser).1.DragsShown := by
    rw [load_eq]
    exact nofun
  exact Run.invariant (P := DragsShown) (fun _ action h => h.act action) hload actions

end Page

end MemShell
