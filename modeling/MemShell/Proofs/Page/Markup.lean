import Mathlib.Algebra.GroupWithZero.Nat
import Mathlib.Data.List.Flatten
import MemShell.Page.Markup
import MemShell.Proofs.Text.Words

/-!
# Elements of a markup

The elements of a markup in document order are its `tags`. As many of them can be the target of an
event by a name as answer to the name (`target?_ne_none_iff`). An event passes the listeners of the
element where it happens and of those around it, and these are all different elements of the markup:
no listener is on the way more often than in the whole markup (`count_handlers_le`).
-/

namespace MemShell

variable {H : Type}

/-- The listeners of an element, whatever they listen for. -/
def Tag.handlers (tag : Tag H) : List H := tag.listeners.map (·.2)

theorem Tag.answersTo_of_lookup {tag : Tag H} {cls : String}
    (h : tag.attributes.lookup "class" = some cls) (name : String) :
    tag.answersTo name = (tag.name == name || (Text.words cls).contains name) := by
  rw [answersTo, classes, h]
  rfl

/-- The attribute of the class is in front in most elements. -/
theorem Tag.answersTo_class (tagName cls name : String) (attributes : List (String × String))
    (value : Option String) (listeners : List (String × H)) :
    (⟨tagName, ("class", cls) :: attributes, value, listeners⟩ : Tag H).answersTo name =
      (tagName == name || (Text.words cls).contains name) :=
  Tag.answersTo_of_lookup List.lookup_cons_self name

theorem Tag.answersTo_bare (tagName name : String) (value : Option String)
    (listeners : List (String × H)) :
    (⟨tagName, [], value, listeners⟩ : Tag H).answersTo name = (tagName == name) :=
  Bool.or_false _

namespace Markup

mutual

/-- The elements in document order. -/
def tags : Markup H → List (Tag H)
  | text _ => []
  | icon _ => [symbol]
  | element tag children => tag :: tagsAll children

def tagsAll : List (Markup H) → List (Tag H)
  | [] => []
  | node :: nodes => tags node ++ tagsAll nodes

end

/-- How many elements answer to the name. -/
def count (root : Markup H) (name : String) : Nat := root.tags.countP (·.answersTo name)

/-- All listeners of the elements. -/
def handlers (root : Markup H) : List H := root.tags.flatMap Tag.handlers

/-- All listeners of the elements, each with the kind of event that it listens for. -/
def listeners (root : Markup H) : List (String × H) := root.tags.flatMap (·.listeners)

theorem tagsAll_eq (nodes : List (Markup H)) : tagsAll nodes = nodes.flatMap tags := by
  induction nodes with
  | nil => rfl
  | cons node nodes ih => rw [tagsAll, ih, List.flatMap_cons]

theorem count_text (t name : String) : (text t : Markup H).count name = 0 := rfl

theorem count_element (tag : Tag H) (children : List (Markup H)) (name : String) :
    (element tag children).count name =
      (if tag.answersTo name then 1 else 0) + (children.map (·.count name)).sum := by
  rw [count, tags, tagsAll_eq, List.countP_cons, List.countP_flatMap, Nat.add_comm]
  rfl

theorem handlers_element (tag : Tag H) (children : List (Markup H)) :
    (element tag children).handlers = tag.handlers ++ children.flatMap handlers := by
  rw [handlers, tags, tagsAll_eq, List.flatMap_cons, List.flatMap_assoc]
  rfl

theorem listeners_element (tag : Tag H) (children : List (Markup H)) :
    (element tag children).listeners = tag.listeners ++ children.flatMap listeners := by
  rw [listeners, tags, tagsAll_eq, List.flatMap_cons, List.flatMap_assoc]
  rfl

theorem handlers_eq (root : Markup H) : root.handlers = root.listeners.map (·.2) := by
  rw [handlers, listeners, List.map_flatMap]
  rfl

/-! ## Lineages -/

theorem lineagesAll_eq (above : List (Tag H)) (nodes : List (Markup H)) :
    lineagesAll above nodes = nodes.flatMap (lineages above) := by
  induction nodes with
  | nil => rfl
  | cons node nodes ih => rw [lineagesAll, ih, List.flatMap_cons]

/-- What is in a child is in the element around it. -/
theorem mem_lineages_element {above lineage : List (Tag H)} {tag : Tag H}
    {children : List (Markup H)} {node : Markup H} (hnode : node ∈ children)
    (h : lineage ∈ lineages (tag :: above) node) :
    lineage ∈ lineages above (element tag children) := by
  rw [lineages, lineagesAll_eq]
  exact List.mem_cons_of_mem _ (List.mem_flatMap.2 ⟨node, hnode, h⟩)

mutual

theorem head?_lineages (above : List (Tag H)) :
    ∀ root : Markup H, (lineages above root).map List.head? = root.tags.map some
  | text _ => by rw [lineages, tags, List.map_nil, List.map_nil]
  | icon _ => by rw [lineages, tags]; rfl
  | element tag children => by
    rw [lineages, tags, List.map_cons, List.map_cons, head?_lineagesAll]
    rfl

theorem head?_lineagesAll (above : List (Tag H)) :
    ∀ nodes : List (Markup H), (lineagesAll above nodes).map List.head? = (tagsAll nodes).map some
  | [] => by rw [lineagesAll, tagsAll, List.map_nil, List.map_nil]
  | node :: nodes => by
    rw [lineagesAll, tagsAll, List.map_append, List.map_append, head?_lineages,
      head?_lineagesAll]

end

theorem length_targets (root : Markup H) (name : String) :
    ((lineages [] root).filter fun lineage => lineage.head?.any (·.answersTo name)).length =
      root.count name := by
  have hheads := congrArg (List.countP fun tag => tag.any (·.answersTo name))
    (head?_lineages [] root)
  rw [List.countP_map, List.countP_map] at hheads
  rw [← List.countP_eq_length_filter, count]
  exact hheads

theorem target?_ne_none_iff (root : Markup H) (name : String) (n : Nat) :
    root.target? name n ≠ none ↔ n < root.count name := by
  rw [target?, ne_eq, List.getElem?_eq_none_iff, length_targets, Nat.not_le]

/-- The only element that answers to the name is its target. -/
theorem target?_of_count {root : Markup H} {name : String} {lineage : List (Tag H)}
    (hcount : root.count name = 1) (hlineage : lineage ∈ lineages [] root)
    (hname : lineage.head?.any (·.answersTo name) = true) :
    root.target? name 0 = some lineage := by
  rw [← length_targets] at hcount
  obtain ⟨only, honly⟩ := List.length_eq_one_iff.1 hcount
  have hmem : lineage ∈ (lineages [] root).filter fun lineage =>
      lineage.head?.any (·.answersTo name) := List.mem_filter.2 ⟨hlineage, hname⟩
  rw [honly] at hmem
  rw [target?, honly, List.mem_singleton.1 hmem]
  rfl

mutual

/-- What an element stands in is above the markup or an element of it. -/
theorem mem_tags_of_mem_lineages (above : List (Tag H)) :
    ∀ root : Markup H, ∀ lineage ∈ lineages above root, ∀ tag ∈ lineage,
      tag ∈ above ∨ tag ∈ root.tags
  | text _ => by
    intro lineage hlineage
    rw [lineages] at hlineage
    cases hlineage
  | icon _ => by
    intro lineage hlineage tag htag
    rw [lineages, List.mem_singleton] at hlineage
    rw [hlineage, List.mem_cons] at htag
    rw [tags, List.mem_singleton]
    exact htag.symm
  | element outer children => by
    intro lineage hlineage tag htag
    rw [lineages, List.mem_cons] at hlineage
    rw [tags, List.mem_cons]
    rcases hlineage with rfl | hlineage
    · rw [List.mem_cons] at htag
      rcases htag with hself | habove
      · exact .inr (.inl hself)
      · exact .inl habove
    · rcases mem_tags_of_mem_lineagesAll (outer :: above) children lineage hlineage tag htag with
        habove | hbelow
      · rw [List.mem_cons] at habove
        rcases habove with hself | habove
        · exact .inr (.inl hself)
        · exact .inl habove
      · exact .inr (.inr hbelow)

theorem mem_tags_of_mem_lineagesAll (above : List (Tag H)) :
    ∀ nodes : List (Markup H), ∀ lineage ∈ lineagesAll above nodes, ∀ tag ∈ lineage,
      tag ∈ above ∨ tag ∈ tagsAll nodes
  | [] => by
    intro lineage hlineage
    rw [lineagesAll] at hlineage
    cases hlineage
  | node :: nodes => by
    intro lineage hlineage tag htag
    rw [lineagesAll, List.mem_append] at hlineage
    rw [tagsAll, List.mem_append]
    rcases hlineage with hlineage | hlineage
    · rcases mem_tags_of_mem_lineages above node lineage hlineage tag htag with habove | hnode
      · exact .inl habove
      · exact .inr (.inl hnode)
    · rcases mem_tags_of_mem_lineagesAll above nodes lineage hlineage tag htag with
        habove | hnodes
      · exact .inl habove
      · exact .inr (.inr hnodes)

end

theorem mem_tags_of_target? {root : Markup H} {name : String} {n : Nat} {lineage : List (Tag H)}
    (htarget : root.target? name n = some lineage) : ∀ tag ∈ lineage, tag ∈ root.tags := by
  intro tag htag
  have hmem : lineage ∈ lineages [] root :=
    (List.mem_filter.1 (List.mem_of_getElem? htarget)).1
  rcases mem_tags_of_mem_lineages [] root lineage hmem tag htag with habove | hroot
  · cases habove
  · exact hroot

variable [DecidableEq H]

mutual

/-- What stands around an element of the markup is above the markup or another element of it. -/
theorem count_lineages (h : H) (above : List (Tag H)) :
    ∀ root : Markup H, ∀ lineage ∈ lineages above root,
      (lineage.flatMap Tag.handlers).count h ≤
        (above.flatMap Tag.handlers).count h + root.handlers.count h
  | text _ => by simp [lineages]
  | icon _ => by
    intro lineage hlineage
    rw [lineages, List.mem_singleton] at hlineage
    rw [hlineage]
    simp [symbol, Tag.handlers]
  | element tag children => by
    intro lineage hlineage
    rw [lineages, List.mem_cons] at hlineage
    rw [handlers, tags, List.flatMap_cons, List.count_append]
    rcases hlineage with rfl | hlineage
    · rw [List.flatMap_cons, List.count_append]
      omega
    · have hbelow := count_lineagesAll h (tag :: above) children lineage hlineage
      rw [List.flatMap_cons, List.count_append] at hbelow
      omega

theorem count_lineagesAll (h : H) (above : List (Tag H)) :
    ∀ nodes : List (Markup H), ∀ lineage ∈ lineagesAll above nodes,
      (lineage.flatMap Tag.handlers).count h ≤
        (above.flatMap Tag.handlers).count h + ((tagsAll nodes).flatMap Tag.handlers).count h
  | [] => by simp [lineagesAll]
  | node :: nodes => by
    intro lineage hlineage
    rw [lineagesAll, List.mem_append] at hlineage
    rw [tagsAll, List.flatMap_append, List.count_append]
    rcases hlineage with hlineage | hlineage
    · have hnode := count_lineages h above node lineage hlineage
      rw [handlers] at hnode
      omega
    · have hnodes := count_lineagesAll h above nodes lineage hlineage
      omega

end

theorem count_handlers_le {root : Markup H} {name : String} {n : Nat} {lineage : List (Tag H)}
    (htarget : root.target? name n = some lineage) (h : H) :
    (lineage.flatMap Tag.handlers).count h ≤ root.handlers.count h := by
  have hmem : lineage ∈ lineages [] root :=
    (List.mem_filter.1 (List.mem_of_getElem? htarget)).1
  simpa using count_lineages h [] root lineage hmem

end Markup

end MemShell
