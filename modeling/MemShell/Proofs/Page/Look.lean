import MemShell.Page.Look
import MemShell.Proofs.Page.Markup

/-!
# What the page shows

Each screen has an element that the others do not have and that it has only once (`count_markup`):
the input field of the prompt, the frame of the editor, and the desktop. All other elements are of
classes of their own (`count_free`). On the prompt one listener only hears the keys
(`handlers_promptNode`). Of a folder window nothing listens but its frame
(`listeners_windowNode`).
-/

namespace MemShell

open Markup

/-- What the element of a screen answers to. -/
def ScreenKind.elementName : ScreenKind → String
  | prompt => "input"
  | editor => "editor"
  | desktop => "desktop"

namespace Page

def elementNames : List String := ["input", "editor", "desktop"]

theorem elementName_mem (kind : ScreenKind) : kind.elementName ∈ elementNames := by
  cases kind <;> decide

section Count

variable {kind : ScreenKind}

/-! ## Elements that belong to no screen -/

theorem count_of_not_mem {tag : Tag Handler}
    (h : ∀ name ∈ elementNames, tag.answersTo name = false) (children : List Node) :
    (element tag children).count kind.elementName =
      (children.map (·.count kind.elementName)).sum := by
  rw [count_element, h _ (elementName_mem kind), if_neg Bool.false_ne_true, Nat.zero_add]

/-- An element whose tag and classes are not those of a screen does not count. -/
theorem count_free {tagName cls : String}
    (h : ∀ word ∈ tagName :: Text.words cls, word ∉ elementNames)
    (attributes : List (String × String)) (value : Option String)
    (listeners : List (String × Handler)) (children : List Node) :
    (element ⟨tagName, ("class", cls) :: attributes, value, listeners⟩ children).count
      kind.elementName = (children.map (·.count kind.elementName)).sum := by
  refine count_of_not_mem (fun name hname => ?_) children
  obtain ⟨htag, hcls⟩ := List.forall_mem_cons.1 h
  have hne : tagName ≠ name := by
    rintro rfl
    exact htag hname
  rw [Tag.answersTo_class, beq_false_of_ne hne, Bool.false_or, List.contains_eq_mem,
    decide_eq_false_iff_not]
  exact fun hmem => hcls name hmem hname

theorem count_bare {tagName : String} (h : tagName ∉ elementNames) (children : List Node) :
    (plain tagName [] children).count kind.elementName =
      (children.map (·.count kind.elementName)).sum := by
  refine count_of_not_mem (fun name hname => ?_) children
  have hne : tagName ≠ name := by
    rintro rfl
    exact h hname
  rw [Tag.answersTo_bare, beq_false_of_ne hne]

theorem sum_count_eq_zero {nodes : List Node}
    (h : ∀ node ∈ nodes, node.count kind.elementName = 0) :
    (nodes.map (·.count kind.elementName)).sum = 0 := by
  rw [List.sum_eq_zero_iff_forall_eq_nat]
  intro n hn
  obtain ⟨node, hnode, rfl⟩ := List.mem_map.1 hn
  exact h node hnode

theorem count_lineNode (line : Line) : (lineNode line).count kind.elementName = 0 := by
  cases line with
  | text | error | success | info =>
    simp (disch := decide) [lineNode, lineColour, div, plain, count_free, count_text]
  | command promptText input =>
    simp (disch := decide) [lineNode, div, span, plain, count_free, count_text]

theorem count_symbol (name : String) : (icon name : Node).count kind.elementName = 0 := by
  cases kind <;> rfl

theorem count_itemNode (symbol name : String) :
    (itemNode symbol name).count kind.elementName = 0 := by
  simp (disch := decide) [itemNode, div, plain, count_free, count_text, count_symbol]

theorem count_contentsNodes (contents : Except FsError Listing) :
    ∀ node ∈ contentsNodes contents, node.count kind.elementName = 0 := by
  intro node hnode
  cases contents with
  | error e =>
    rw [List.mem_singleton.1 hnode]
    simp (disch := decide) [plain, count_free, count_text]
  | ok listing =>
    rw [contentsNodes] at hnode
    split at hnode
    · rw [List.mem_singleton.1 hnode]
      simp (disch := decide) [plain, count_free, count_text]
    · simp only [List.mem_append, List.mem_map] at hnode
      obtain ⟨name, -, rfl⟩ | ⟨name, -, rfl⟩ := hnode
      · exact count_itemNode _ name
      · exact count_itemNode _ name

theorem count_iconNode (d : Desktop Float) (index : Nat) (shown : Icon Float) :
    (iconNode d index shown).count kind.elementName = 0 := by
  have hclass : iconClass d.drag index = "folder dragging" ∨ iconClass d.drag index = "folder" := by
    unfold iconClass
    split
    · split
      · exact .inl rfl
      · exact .inr rfl
    · exact .inr rfl
  rw [iconNode]
  rcases hclass with hclass | hclass
  · rw [hclass]
    simp (disch := decide) [span, plain, count_free, count_text, count_symbol]
  · rw [hclass]
    simp (disch := decide) [span, plain, count_free, count_text, count_symbol]

theorem count_menuNode (place : Point Float) :
    (menuNode place).count kind.elementName = 0 := by
  simp (disch := decide) [menuNode, live, count_free, count_text, count_symbol, count_bare]

theorem count_windowNode (s : Session) (d : Desktop Float) (folder : String) :
    (windowNode s d folder).count kind.elementName = 0 := by
  have hcontents :
      ((contentsNodes (s.contents (Session.folderPath folder))).map
        (·.count kind.elementName)).sum = 0 :=
    sum_count_eq_zero (count_contentsNodes _)
  simp (disch := decide) [windowNode, closeButton, live, div, span, plain, count_free, count_text,
    count_symbol, hcontents]

theorem count_terminalButton : terminalButton.count kind.elementName = 0 := by
  simp (disch := decide) [terminalButton, count_free, count_bare, count_text, count_symbol]

/-! ## Elements of the screens -/

theorem count_desktopNode (s : Session) (d : Desktop Float) :
    (desktopNode s d).count kind.elementName = if kind = .desktop then 1 else 0 := by
  have hinside : ∀ node ∈ d.icons.mapIdx (iconNode d) ++ (d.openFolder.map (windowNode s d)).toList
      ++ (d.menu.map menuNode).toList ++ [terminalButton], node.count kind.elementName = 0 := by
    intro node hnode
    simp only [List.mem_append, List.mem_mapIdx, Option.mem_toList, Option.map_eq_some_iff,
      List.mem_singleton] at hnode
    obtain ((⟨index, hindex, rfl⟩ | ⟨folder, -, rfl⟩) | ⟨place, -, rfl⟩) | rfl := hnode
    · exact count_iconNode d index _
    · exact count_windowNode s d folder
    · exact count_menuNode place
    · exact count_terminalButton
  have hwords : Text.words "desktop" = ["desktop"] := rfl
  rw [desktopNode, live, count_element, Tag.answersTo_class, hwords, sum_count_eq_zero hinside]
  cases kind <;> rfl

theorem count_editorNode (editor : Option Editor) :
    (editorNode editor).count kind.elementName = if kind = .editor then 1 else 0 := by
  have hwords : Text.words "editor" = ["editor"] := rfl
  have harea (buffer : String) : (textareaNode buffer).count kind.elementName = 0 := by
    simp (disch := decide) [textareaNode, count_free]
  have hhints : hintsNode.count kind.elementName = 0 := by
    simp (disch := decide) [hintsNode, span, plain, count_free, count_text]
  have hinside : ∀ node ∈ [div "titleBar" [text ((editor.map (·.title)).getD "")],
      textareaNode ((editor.map (·.buffer)).getD ""),
      div "statusBar" [span "status" [text ((editor.bind (·.status)).getD "")], hintsNode]],
      node.count kind.elementName = 0 := by
    simp (disch := decide) [div, span, plain, count_free, count_text, harea, hhints]
  rw [editorNode, div, plain, count_element, Tag.answersTo_class, hwords,
    sum_count_eq_zero hinside]
  cases kind <;> rfl

theorem count_inputNode (draft : String) :
    (inputNode draft).count kind.elementName = if kind = .prompt then 1 else 0 := by
  have hwords : Text.words "input" = ["input"] := rfl
  rw [inputNode, count_element, Tag.answersTo_of_lookup rfl, hwords]
  cases kind <;> rfl

theorem count_promptNode (s : Session) (draft : String) :
    (promptNode s draft).count kind.elementName = if kind = .prompt then 1 else 0 := by
  have houtput : (div "output" (s.log.map lineNode)).count kind.elementName = 0 := by
    rw [div, plain, count_free (by decide), sum_count_eq_zero]
    intro node hnode
    obtain ⟨line, -, rfl⟩ := List.mem_map.1 hnode
    exact count_lineNode line
  rw [promptNode, live, count_free (by decide), List.map_cons, List.sum_cons, houtput]
  simp (disch := decide) [div, span, plain, count_free, count_text, count_inputNode]

/-- The page has the element of the screen that is shown, once, and no element of another. -/
theorem count_markup (p : Page) (kind : ScreenKind) :
    p.markup.count kind.elementName = if kind = p.screen.kind then 1 else 0 := by
  have hmain : p.markup.count kind.elementName =
      (div "screen" [p.screenNode]).count kind.elementName := by
    rw [markup, plain, count_of_not_mem (by decide), List.map_singleton, List.sum_singleton]
  have hscreen : (div "screen" [p.screenNode]).count kind.elementName =
      p.screenNode.count kind.elementName := by
    simp (disch := decide) [div, plain, count_free]
  rw [hmain, hscreen, screenNode]
  cases p.screen with
  | prompt draft => exact count_promptNode p.session draft
  | editor => exact count_editorNode p.session.editor?
  | desktop d => exact count_desktopNode p.session d

end Count

/-! ## Listeners of the prompt -/

theorem handlers_lineNode (line : Line) : (lineNode line).handlers = [] := by
  cases line <;> rfl

theorem handlers_promptNode (s : Session) (draft : String) :
    (promptNode s draft).handlers = [.focusInput, .promptTyped, .promptKey] := by
  have hlines : (s.log.map lineNode).flatMap handlers = [] := by
    rw [List.flatMap_eq_nil_iff]
    intro node hnode
    obtain ⟨line, -, rfl⟩ := List.mem_map.1 hnode
    exact handlers_lineNode line
  have houtput : (div "output" (s.log.map lineNode)).handlers = [] := by
    rw [div, plain, handlers_element, hlines]
    rfl
  rw [promptNode, live, handlers_element, List.flatMap_cons, houtput]
  rfl

theorem handlers_markup_of_prompt {p : Page} {draft : String} (h : p.screen = .prompt draft) :
    p.markup.handlers = [.focusInput, .promptTyped, .promptKey] := by
  rw [← handlers_promptNode p.session draft, markup, screenNode, h, plain, handlers_element,
    List.flatMap_singleton, div, plain, handlers_element, List.flatMap_singleton]
  rfl

/-! ## Listeners of the folder window -/

theorem listeners_contentsNodes (contents : Except FsError Listing) :
    (contentsNodes contents).flatMap listeners = [] := by
  rw [List.flatMap_eq_nil_iff]
  intro node hnode
  cases contents with
  | error e =>
    rw [List.mem_singleton.1 hnode]
    rfl
  | ok listing =>
    rw [contentsNodes] at hnode
    split at hnode
    · rw [List.mem_singleton.1 hnode]
      rfl
    · simp only [List.mem_append, List.mem_map] at hnode
      obtain ⟨name, -, rfl⟩ | ⟨name, -, rfl⟩ := hnode
      · rfl
      · rfl

theorem listeners_windowNode (s : Session) (d : Desktop Float) (folder : String) :
    (windowNode s d folder).listeners =
      [("contextmenu", .absorb), ("mousedown", .pressTitle), ("mousedown", .absorb),
        ("click", .closeWindow), ("mousedown", .pressHandle)] := by
  have hcontents :
      (div "content" (contentsNodes (s.contents (Session.folderPath folder)))).listeners = [] := by
    rw [div, plain, listeners_element, listeners_contentsNodes]
    rfl
  rw [windowNode, listeners_element, List.flatMap_cons, List.flatMap_cons, hcontents]
  rfl

end Page

end MemShell
