import Mathlib.Data.List.Chain
import MemShell.Proofs.Path.Resolve

/-!
# Taking paths apart and putting them together

What is canonical shows in the text alone: it starts and ends with a slash, and nowhere is one slash
right behind another (`isCanonical_iff_isTidy`). So `segments` and `ofSegments` undo each other, and
`parent` with `lastName` undo `join`.

A walk does not go down by `.` and `..`, though both can stand between slashes. So a canonical path
through one of them is not put together again by a walk: `join` gives a path back from its parent
and its last name exactly if that name is neither of the two (`join_parent_iff`), and what is shown
of a path leads to the path exactly if none of its names is (`resolve_display_iff`).
-/

namespace MemShell.Path

variable {path dir name : String}

/-! ## Canonical paths as text -/

/-- The text starts and ends with a slash, and no slash stands right behind another one. -/
structure IsTidy (path : String) : Prop where
  head : path.toList.head? = some '/'
  last : path.toList.getLast? = some '/'
  single : path.toList.IsChain fun c next => ¬(c = '/' ∧ next = '/')

theorem isTidy_root : IsTidy root := ⟨rfl, rfl, List.isChain_singleton _⟩

/-- One more name and its slash keep a text tidy. -/
theorem IsTidy.child (h : IsTidy dir) (hname : IsSegment name) : IsTidy (child dir name) := by
  have htext : (Path.child dir name).toList = dir.toList ++ (name.toList ++ ['/']) := by
    simp [Path.child]
  have hne : name.toList ≠ [] := mt String.toList_eq_nil_iff.1 hname.1
  have hfree : ∀ c ∈ name.toList, c ≠ '/' := fun c hc heq => hname.2 (heq ▸ hc)
  have hsingle : name.toList.IsChain fun c next => ¬(c = '/' ∧ next = '/') := by
    refine List.Pairwise.isChain (List.pairwise_of_forall_mem_list fun c hc next _ hboth => ?_)
    exact hfree c hc hboth.1
  refine ⟨?_, ?_, ?_⟩
  · rw [htext, List.head?_append, h.head]
    rfl
  · rw [htext, ← List.append_assoc, List.getLast?_concat]
  · rw [htext, List.isChain_append, List.isChain_append]
    refine ⟨h.single, ⟨hsingle, List.isChain_singleton _, fun c hc next _ hboth => ?_⟩,
      fun c _ next hnext hboth => ?_⟩
    · exact hfree c (List.mem_of_getLast? hc) hboth.1
    · rw [List.head?_append_of_ne_nil _ hne] at hnext
      exact hfree next (List.mem_of_head? hnext) hboth.2

/-- A text that ends in a slash and has no two in a row is its stretches between slashes, each of
them with the slash behind it. -/
theorem flatMap_splitRun {cs : List Char} (hlast : cs.getLast? = some '/')
    (hsingle : cs.IsChain fun c next => ¬(c = '/' ∧ next = '/')) :
    (Text.splitRun isSlash cs).1 ++
      '/' :: (Text.splitRun isSlash cs).2.flatMap (fun run => run ++ ['/']) = cs := by
  induction cs with
  | nil => cases hlast
  | cons c cs ih =>
    cases cs with
    | nil =>
      obtain rfl : c = '/' := by simpa using hlast
      rfl
    | cons next cs =>
      rw [List.isChain_cons_cons] at hsingle
      rw [List.getLast?_cons_cons] at hlast
      have htail := ih hlast hsingle.2
      by_cases hc : c = '/'
      · -- The stretch behind this slash is not empty, so the runs start with it.
        subst hc
        have hnext : isSlash next = false :=
          beq_eq_false_iff_ne.2 fun heq => hsingle.1 ⟨rfl, heq⟩
        rw [Text.splitRun_cons_of_not_sep hnext] at htail
        rw [Text.splitRun_cons_of_sep rfl, Text.runs_cons_of_not_sep hnext, List.flatMap_cons,
          List.append_assoc, List.singleton_append, htail, List.nil_append]
      · have hslash : isSlash c = false := beq_eq_false_iff_ne.2 hc
        rw [Text.splitRun_cons_of_not_sep hslash, List.cons_append, htail]

/-- The canonical paths are the tidy texts. -/
theorem isCanonical_iff_isTidy : IsCanonical IsSegment path ↔ IsTidy path := by
  constructor
  · rintro ⟨names, hnames, rfl⟩
    induction names using List.reverseRecOn with
    | nil => exact ofSegments_nil ▸ isTidy_root
    | append_singleton names name ih =>
      rw [List.forall_mem_append, List.forall_mem_singleton] at hnames
      rw [ofSegments_append_singleton]
      exact (ih hnames.1).child hnames.2
  · intro h
    obtain ⟨cs, htext⟩ := List.head?_eq_some_iff.1 h.head
    have hcut := flatMap_splitRun h.last h.single
    rw [htext, Text.splitRun_cons_of_sep rfl] at hcut
    rw [isCanonical_iff, segments, htext, Text.runs_cons_of_sep rfl, ofSegments]
    apply String.toList_injective
    rw [String.toList_ofList, htext, List.flatMap_map]
    simpa using hcut

/-! ## Putting together what was taken apart -/

theorem display_inj {other : String} (h : IsCanonical IsSegment path)
    (hother : IsCanonical IsSegment other) : display path = display other ↔ path = other := by
  refine ⟨fun heq => ?_, congrArg display⟩
  have hsegments := congrArg segments heq
  rw [segments_display, segments_display] at hsegments
  rw [← h.ofSegments_segments, hsegments, hother.ofSegments_segments]

theorem join_inj {dir' name' : String} (hdir : IsCanonical IsSegment dir)
    (hdir' : IsCanonical IsSegment dir') (hname : IsName name) (hname' : IsName name') :
    join dir name = join dir' name' ↔ dir = dir' ∧ name = name' := by
  rw [join_eq_child hdir hname, join_eq_child hdir' hname']
  exact child_inj hdir hdir' hname.isSegment hname'.isSegment

/-- To join `.` is to stay. -/
theorem join_dot (h : IsCanonical IsSegment dir) : join dir "." = dir := by
  have hdot : IsSegment "." := ⟨by decide, by decide⟩
  rw [join_eq_step dir hdot, step, if_neg (by decide), if_pos rfl, h.ofSegments_segments]

/-- To join `..` is to go up. -/
theorem join_dots (dir : String) : join dir ".." = parent dir := by
  have hdots : IsSegment ".." := ⟨by decide, by decide⟩
  rw [join_eq_step dir hdots, step, if_pos rfl, parent]

theorem child_ne_parent (hdir : IsCanonical IsSegment dir) (hname : IsSegment name) :
    child dir name ≠ parent dir := by
  intro heq
  have hparent : segments (parent dir) = (segments dir).dropLast := by
    rw [parent, segments_ofSegments]
    exact fun other hother => isSegment_of_mem_segments (List.dropLast_subset _ hother)
  have hlength := congrArg List.length (congrArg segments heq)
  rw [segments_child hdir hname, hparent, List.length_append, List.length_dropLast,
    List.length_singleton] at hlength
  omega

/-- A canonical path is its last name joined to its parent, unless the walk does not go down by that
name. -/
theorem join_parent_iff (h : IsCanonical IsSegment path) (hne : path ≠ root) :
    join (parent path) (lastName path) = path ↔ lastName path ≠ "." ∧ lastName path ≠ ".." := by
  obtain ⟨dir, name, hdir, hname, rfl⟩ := h.eq_root_or_child.resolve_left hne
  rw [parent_child hdir hname, lastName_child hdir hname]
  constructor
  · intro hjoin
    constructor
    · rintro rfl
      rw [join_dot hdir] at hjoin
      exact child_ne_self hdir hname hjoin.symm
    · rintro rfl
      rw [join_dots] at hjoin
      exact child_ne_parent hdir hname hjoin.symm
  · rintro ⟨hdot, hdots⟩
    exact join_eq_child hdir ⟨hname, hdot, hdots⟩

/-- What is shown of a canonical path leads to the path, unless the walk does not go down by one of
its names. -/
theorem resolve_display_iff (h : IsCanonical IsSegment path) (base : String) :
    resolve base (display path) = path ↔ ∀ name ∈ segments path, name ≠ "." ∧ name ≠ ".." := by
  constructor
  · intro hresolve name hname
    have hsource : source base (display path) = [] := by
      rw [source, isAbsolute_display h, if_pos rfl]
    rw [← hresolve, segments_resolve, hsource] at hname
    rcases mem_foldl_step hname with hstart | ⟨-, hfree⟩
    · cases hstart
    · exact hfree
  · intro hfree
    refine resolve_display ⟨segments path, fun name hname => ?_, h.ofSegments_segments.symm⟩ base
    exact ⟨isSegment_of_mem_segments hname, hfree name hname⟩

/-- Canonical paths and the lists of names that can stand between slashes are the same, and a path
is its parent and its last name: what a name was joined to and the name can be read off the path,
and a path is joined again from the two if its last name is neither `.` nor `..`. What is shown of a
path determines it, and it is the way to the path, from everywhere, if none of its names is `.` or
`..`. -/
theorem canonical_inverses :
    (∀ path, IsCanonical IsSegment path ↔ IsTidy path) ∧
    (∀ names, (∀ name ∈ names, IsSegment name) →
      IsCanonical IsSegment (ofSegments names) ∧ segments (ofSegments names) = names) ∧
    (∀ path, IsCanonical IsSegment path →
      (∀ name ∈ segments path, IsSegment name) ∧ ofSegments (segments path) = path) ∧
    (∀ dir name, IsCanonical IsSegment dir → IsName name →
      parent (join dir name) = dir ∧ lastName (join dir name) = name) ∧
    (∀ path, IsCanonical IsSegment path → path ≠ root →
      (join (parent path) (lastName path) = path ↔
        lastName path ≠ "." ∧ lastName path ≠ "..")) ∧
    (∀ dir dir' name name', IsCanonical IsSegment dir → IsCanonical IsSegment dir' → IsName name →
      IsName name' → join dir name = join dir' name' → dir = dir' ∧ name = name') ∧
    (∀ path other, IsCanonical IsSegment path → IsCanonical IsSegment other →
      display path = display other → path = other) ∧
    ∀ path, IsCanonical IsSegment path → ∀ base,
      (resolve base (display path) = path ↔
        ∀ name ∈ segments path, name ≠ "." ∧ name ≠ "..") := by
  refine ⟨fun path => isCanonical_iff_isTidy, fun names hnames => ?_, fun path hpath => ?_,
    fun dir name hdir hname => ?_, fun path => join_parent_iff,
    fun dir dir' name name' hdir hdir' hname hname' => (join_inj hdir hdir' hname hname').1,
    fun path other hpath hother => (display_inj hpath hother).1, fun path => resolve_display_iff⟩
  · exact ⟨⟨names, hnames, rfl⟩, segments_ofSegments hnames⟩
  · exact ⟨fun name => isSegment_of_mem_segments, hpath.ofSegments_segments⟩
  · rw [join_eq_child hdir hname]
    exact ⟨parent_child hdir hname.isSegment, lastName_child hdir hname.isSegment⟩

/-- Below `/home/../`, a path that a walk would leave, names can be joined and taken off all the
same. What is shown of `/home/docs/` is read in a directory that is not even canonical. -/
theorem canonical_inverses_docs :
    let names := ["home", "..", "docs"]
    let dir := "/home/../"
    let path := "/home/../docs/"
    ((∀ name ∈ names, IsSegment name) ∧ segments (ofSegments names) = names) ∧
    (IsCanonical IsSegment path ∧ ofSegments (segments path) = path) ∧
    (IsCanonical IsSegment dir ∧ IsName "docs" ∧ parent (join dir "docs") = dir ∧
      lastName (join dir "docs") = "docs") ∧
    (path ≠ root ∧ join (parent path) (lastName path) = path) ∧
    (join dir "docs" = join (parent path) (lastName path) ∧ dir = parent path ∧
      "docs" = lastName path) ∧
    (display path = display (join dir "docs") ∧ path = join dir "docs") ∧
    (IsCanonical IsSegment "/home/docs/" ∧
      resolve "var//." (display "/home/docs/") = "/home/docs/") := by
  intro names dir path
  have hnames : ∀ name ∈ names, IsSegment name := by
    have hsegments : names = segments "home/../docs" := by decide
    rw [hsegments]
    exact fun name => isSegment_of_mem_segments
  have hname : IsName "docs" := ⟨⟨by decide, by decide⟩, by decide, by decide⟩
  have hdir : IsCanonical IsSegment dir := isCanonical_iff.2 (by decide)
  have hpath : IsCanonical IsSegment path := isCanonical_iff.2 (by decide)
  have hdocs : IsCanonical IsSegment "/home/docs/" := isCanonical_iff.2 (by decide)
  have hparent : parent path = dir := by decide
  have hlast : lastName path = "docs" := by decide
  have hjoined : join dir "docs" = path := by decide
  obtain ⟨-, hlists, hpaths, hchildren, hjoin, hinj, hdisplay, hresolve⟩ := canonical_inverses
  refine ⟨⟨hnames, (hlists names hnames).2⟩, ⟨hpath, (hpaths path hpath).2⟩,
    ⟨hdir, hname, hchildren dir "docs" hdir hname⟩, ⟨by decide, ?_⟩, ⟨?_, ?_⟩, ⟨?_, ?_⟩, hdocs, ?_⟩
  · exact (hjoin path hpath (by decide)).2 (by decide)
  · rw [hparent, hlast]
  · refine hinj dir (parent path) "docs" (lastName path) hdir ?_ hname ?_ ?_
    · rwa [hparent]
    · rwa [hlast]
    · rw [hparent, hlast]
  · rw [hjoined]
  · exact hdisplay path (join dir "docs") hpath (hjoined ▸ hpath) (by rw [hjoined])
  · exact (hresolve "/home/docs/" hdocs "var//.").2 (by decide)

/-- The list of the one name `.` belongs to the path `/./`, and what joins or shows that path leads
to the root. So whichever paths are called canonical, if every list of names between slashes is to
have one, then not every such path is its last name joined to its parent, and not every one is where
the text that is shown of it leads. -/
theorem dot_path_not_rebuilt :
    (IsSegment "." ∧ ofSegments ["."] = "/./" ∧ IsCanonical IsSegment "/./" ∧ "/./" ≠ root) ∧
    (join (parent "/./") (lastName "/./") = root ∧ resolve home (display "/./") = root) ∧
    ∀ Canonical : String → Prop,
      (∀ names, (∀ name ∈ names, IsSegment name) → Canonical (ofSegments names)) →
        (¬ ∀ path, Canonical path → path ≠ root → join (parent path) (lastName path) = path) ∧
        ¬ ∀ path, Canonical path → ∀ base, resolve base (display path) = path := by
  have hdot : IsSegment "." := ⟨by decide, by decide⟩
  have hpath : ofSegments ["."] = "/./" := by decide
  have hne : "/./" ≠ root := by decide
  have hjoin : join (parent "/./") (lastName "/./") = root := by decide
  have hresolve : resolve home (display "/./") = root := by decide
  refine ⟨⟨hdot, hpath, isCanonical_iff.2 (by decide), hne⟩, ⟨hjoin, hresolve⟩,
    fun Canonical hlists => ?_⟩
  have hcanonical : Canonical "/./" := by
    rw [← hpath]
    exact hlists ["."] (List.forall_mem_singleton.2 hdot)
  constructor
  · intro hrebuilt
    exact hne ((hrebuilt "/./" hcanonical hne).symm.trans hjoin)
  · intro hshown
    exact hne ((hshown "/./" hcanonical home).symm.trans hresolve)

end MemShell.Path
