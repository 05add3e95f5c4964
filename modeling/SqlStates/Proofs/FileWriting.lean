/-
Writing files: one path holds the bytes, and every other path has what it had.

A tree lists its nodes, and a directory needs no mention when something lies in it, so
putting a file in could make directories appear. It makes none: the walk that a writer
takes has met every directory on the way (`Hosted`), and so the only path at which anything
changes is the one the walk has led to. The same walk, taken once more, passes through the
same directories and ends at the file that was put there.
-/
import SqlStates.Files

set_option autoImplicit false

namespace SqlStates

/-- Whether a place keeps what is written there, at a path: a file does, and a free name. -/
def Place.KeepsAt (place : Place) (there : Path) : Prop :=
  place = .free there ∨ ∃ old, place = .taken there (.file old)

namespace FileTree

/-! ## What is at a path -/

/-- Whether something is at a path or lies in it. -/
def Reaches (tree : FileTree) (q : Path) : Prop :=
  q <+: tree.workDir ∨ ∃ item ∈ tree.nodes, q <+: item.1

theorem isPrefixOf_or_any_iff (tree : FileTree) (q : Path) :
    (q.isPrefixOf tree.workDir || tree.nodes.any fun item => q.isPrefixOf item.1) = true ↔
      tree.Reaches q := by
  simp only [Bool.or_eq_true, List.any_eq_true, List.isPrefixOf_iff_prefix, Reaches]

theorem node?_ne_none_iff {tree : FileTree} {q : Path} : tree.node? q ≠ none ↔ tree.Reaches q := by
  unfold node?
  split
  · next item hfind =>
    have hmem : item ∈ tree.nodes := List.mem_of_find?_eq_some hfind
    obtain rfl : item.1 = q := by simpa using List.find?_some hfind
    exact iff_of_true (by simp) (.inr ⟨item, hmem, List.prefix_rfl⟩)
  · rw [← isPrefixOf_or_any_iff]
    split
    · next h => simp [h]
    · next h => simp [h]

/-- The directories on the way to a path at which there is something are there too. -/
theorem node?_ne_none_of_prefix {tree : FileTree} {p q : Path} (hp : tree.node? p ≠ none)
    (hq : q <+: p) : tree.node? q ≠ none := by
  rw [node?_ne_none_iff] at hp ⊢
  rcases hp with hwork | ⟨item, hitem, hprefix⟩
  · exact .inl (hq.trans hwork)
  · exact .inr ⟨item, hitem, hq.trans hprefix⟩

/-- Whether every directory on the way to a path is there. -/
def Hosted (tree : FileTree) (there : Path) : Prop :=
  ∀ q, q <+: there → q ≠ there → tree.node? q ≠ none

theorem hosted_of_node? {tree : FileTree} {there : Path} (h : tree.node? there ≠ none) :
    tree.Hosted there := by
  intro q hq _
  exact node?_ne_none_of_prefix h hq

/-- A name in a directory has every directory on its way. -/
theorem hosted_concat {tree : FileTree} {here : Path} (h : tree.node? here ≠ none) (name : Text) :
    tree.Hosted (here ++ [name]) := by
  intro q hq hne
  apply node?_ne_none_of_prefix h
  rcases List.prefix_concat_iff.mp hq with heq | hprefix
  · exact absurd heq hne
  · exact hprefix

/-! ## The tree with a file put in -/

section Put

variable {tree : FileTree} {there : Path} (content : Bytes)

theorem node?_put_self : (tree.put there content).node? there = some (.file content) := by
  have hold : (tree.nodes.filter fun item => item.1 != there).find? (fun item => item.1 == there)
      = none := by
    rw [List.find?_eq_none]
    intro item hitem
    have hne := (List.mem_filter.mp hitem).2
    simpa using hne
  simp only [node?, put, List.find?_append, hold, Option.none_or]
  simp

theorem find?_put_of_ne {q : Path} (hne : q ≠ there) :
    (tree.put there content).nodes.find? (fun item => item.1 == q)
      = tree.nodes.find? fun item => item.1 == q := by
  have hlast : List.find? (fun item : Path × Node => item.1 == q) [(there, .file content)]
      = none := by
    simp [Ne.symm hne]
  rw [put, List.find?_append, hlast, Option.or_none, List.find?_filter]
  -- an item at `q` is none of those that were taken out
  congr 1
  funext item
  by_cases heq : item.1 = q
  · simp [heq, hne]
  · simp [heq]

theorem reaches_put_iff (hhosted : tree.Hosted there) {q : Path} (hne : q ≠ there) :
    (tree.put there content).Reaches q ↔ tree.Reaches q := by
  constructor
  · rintro (hwork | ⟨item, hitem, hprefix⟩)
    · exact .inl hwork
    · rw [put, List.mem_append, List.mem_filter, List.mem_singleton] at hitem
      rcases hitem with ⟨hold, -⟩ | rfl
      · exact .inr ⟨item, hold, hprefix⟩
      · -- on the way to the new file there is nothing that was not there
        exact node?_ne_none_iff.mp (hhosted q hprefix hne)
  · rintro (hwork | ⟨item, hitem, hprefix⟩)
    · exact .inl hwork
    · by_cases heq : item.1 = there
      · rw [heq] at hprefix
        exact .inr ⟨(there, .file content), by simp [put], hprefix⟩
      · exact .inr ⟨item, by simp [put, hitem, heq], hprefix⟩

/-- **Nothing else changes**: at every other path there is what there was. -/
theorem node?_put_of_ne (hhosted : tree.Hosted there) {q : Path} (hne : q ≠ there) :
    (tree.put there content).node? q = tree.node? q := by
  unfold node?
  rw [find?_put_of_ne content hne]
  split
  · rfl
  · have hreaches := reaches_put_iff content hhosted hne
    rw [← isPrefixOf_or_any_iff, ← isPrefixOf_or_any_iff, ← Bool.eq_iff_iff] at hreaches
    rw [hreaches]

end Put

/-! ## Walks -/

section Steps

variable {tree : FileTree} {here : Path} (hdir : tree.node? here = some .directory)
include hdir

theorem walk_dot (rest : List Text) : tree.walk here (['.'] :: rest) = tree.walk here rest := by
  rw [walk.eq_def]
  simp only [hdir, if_true]

theorem walk_dots (rest : List Text) :
    tree.walk here (['.', '.'] :: rest) = tree.walk here.dropLast rest := by
  rw [walk.eq_def]
  simp only [hdir]
  rfl

/-- A name of something in a directory is a step to it. -/
theorem walk_name {name : Text} (hdot : name ≠ ['.']) (hdots : name ≠ ['.', '.'])
    (hshort : ¬ maxName < (Utf8.encode name).length)
    (hfound : tree.node? (here ++ [name]) ≠ none) (rest : List Text) :
    tree.walk here (name :: rest) = tree.walk (here ++ [name]) rest := by
  obtain ⟨found, hfound⟩ := Option.ne_none_iff_exists'.mp hfound
  rw [walk.eq_def]
  simp only [hdir, if_neg hdot, if_neg hdots, if_neg hshort, hfound]

end Steps

/-- What a walk that does not fail has found: the node that is at its end, or a free name with every
directory on its way. -/
def Finds (tree : FileTree) : Place → Prop
  | .taken there node => tree.node? there = some node
  | .free there => tree.node? there = none ∧ tree.Hosted there

theorem finds_of_walk {tree : FileTree} {here : Path} {names : List Text} {place : Place}
    (h : tree.walk here names = .ok place) : tree.Finds place := by
  fun_induction walk tree here names with
  | case1 here hnone => cases h
  | case2 here node hnode =>
    cases h
    exact hnode
  | case3 here name rest hnone => cases h
  | case4 here rest hnode ih => exact ih h
  | case5 here rest hnode hdot ih => exact ih h
  | case6 here name rest hnode hdot hdots hlong => cases h
  | case7 here name hnode hdot hdots hshort hfree =>
    cases h
    refine ⟨hfree, hosted_concat ?_ name⟩
    rw [hnode]
    simp
  | case8 here name hnode hdot hdots hshort next rest hfree => cases h
  | case9 here name rest hnode hdot hdots hshort found hfound ih => exact ih h
  | case10 here name rest node hnode hfile => cases h

/-- What keeps bytes is no directory, and has every directory on its way. -/
theorem hosted_of_keepsAt {tree : FileTree} {place : Place} {there : Path}
    (hfinds : tree.Finds place) (hkeeps : place.KeepsAt there) :
    tree.Hosted there ∧ tree.node? there ≠ some .directory := by
  rcases hkeeps with rfl | ⟨old, rfl⟩
  · refine ⟨hfinds.2, ?_⟩
    rw [hfinds.1]
    simp
  · have hnode : tree.node? there = some (.file old) := hfinds
    refine ⟨hosted_of_node? ?_, ?_⟩
    · simp [hnode]
    · simp [hnode]

/-- **The way to a file that was put in** is the way that was walked before: it passes through
directories, and none of them is the file. -/
theorem walk_put {tree : FileTree} {here there : Path} {names : List Text} {place : Place}
    (content : Bytes) (hhosted : tree.Hosted there) (hnot : tree.node? there ≠ some .directory)
    (h : tree.walk here names = .ok place) (hkeeps : place.KeepsAt there) :
    (tree.put there content).walk here names = .ok (.taken there (.file content)) := by
  -- a directory on the way is where it was
  have hdir : ∀ q, tree.node? q = some .directory →
      (tree.put there content).node? q = some .directory := by
    intro q hq
    have hne : q ≠ there := by
      rintro rfl
      exact hnot hq
    rw [node?_put_of_ne content hhosted hne, hq]
  fun_induction walk tree here names with
  | case1 here hnone => cases h
  | case2 here node hnode =>
    cases h
    rcases hkeeps with hfree | ⟨old, htaken⟩
    · cases hfree
    · cases htaken
      rw [walk, node?_put_self]
  | case3 here name rest hnone => cases h
  | case4 here rest hnode ih =>
    rw [walk_dot (hdir here hnode)]
    exact ih h
  | case5 here rest hnode hdot ih =>
    rw [walk_dots (hdir here hnode)]
    exact ih h
  | case6 here name rest hnode hdot hdots hlong => cases h
  | case7 here name hnode hdot hdots hshort hfree =>
    cases h
    rcases hkeeps with hfree | ⟨old, htaken⟩
    · cases hfree
      have hnow := @node?_put_self tree (here ++ [name]) content
      rw [walk_name (hdir here hnode) hdot hdots hshort (by simp [hnow]), walk, hnow]
    · cases htaken
  | case8 here name hnode hdot hdots hshort next rest hfree => cases h
  | case9 here name rest hnode hdot hdots hshort found hfound ih =>
    -- the next name leads somewhere still, be it to the file itself
    have hnow : (tree.put there content).node? (here ++ [name]) ≠ none := by
      by_cases heq : here ++ [name] = there
      · simp [heq, node?_put_self]
      · simp [node?_put_of_ne content hhosted heq, hfound]
    rw [walk_name (hdir here hnode) hdot hdots hshort hnow]
    exact ih h
  | case10 here name rest node hnode hfile => cases h

/-! ## Writes -/

theorem locateForWriting_eq_ok_iff {tree : FileTree} {path : Text} {place : Place} :
    tree.locateForWriting path = .ok place ↔
      pathFault? path = none ∧ asksNewDirectory path = false
        ∧ tree.walk (tree.start path) (names path) = .ok place := by
  unfold locateForWriting
  cases pathFault? path with
  | some fault => simp
  | none =>
    cases asksNewDirectory path with
    | false => simp
    | true =>
      -- the slash at its end turns the writer away, whatever is found
      cases tree.walk (tree.start path) ((names path).dropLast ++ [['.']]) with
      | error fault => simp
      | ok found => simp

/-- Where a path leads a reader that asks for no directory is where it leads a writer. -/
theorem locate_of_locateForWriting {tree : FileTree} {path : Text} {place : Place}
    (hslash : asksDirectory path = false) (h : tree.locateForWriting path = .ok place) :
    tree.locate path = .ok place := by
  obtain ⟨hfault, -, hwalk⟩ := locateForWriting_eq_ok_iff.mp h
  simp [locate, hfault, hslash, hwalk]

/-- Whether a path leads to a file, or to a free name, at a path from the root. -/
def LeadsToFile (tree : FileTree) (path : Text) (there : Path) : Prop :=
  ∃ place, tree.locateForWriting path = .ok place ∧ place.KeepsAt there

/-- Whether a path leads to a device. -/
def LeadsToDevice (tree : FileTree) (path : Text) : Prop :=
  ∃ there node, tree.locateForWriting path = .ok (.taken there node)
    ∧ (node = .nullDevice ∨ node = .fullDevice)

/-- What a tree is after bytes have been written to a path. -/
inductive Written (before : FileTree) (path : Text) (content : Bytes) (after : FileTree) : Prop where
  /-- The path leads to a file, new or not, that holds the bytes and nothing else. At every other
  path there is what there was. -/
  | kept (there : Path) (leads : before.LeadsToFile path there)
      (holds : after.node? there = some (.file content))
      (others : ∀ q, q ≠ there → after.node? q = before.node? q)
      (again : after.locateForWriting path = .ok (.taken there (.file content)))
      (reads : asksDirectory path = false → after.readBytes path = .ok content)
  /-- The path leads to a device, which keeps nothing. -/
  | swallowed (leads : before.LeadsToDevice path) (same : after = before)

/-- A file put in at the end of a walk has been written. -/
theorem written_put {tree : FileTree} {path : Text} {place : Place} {there : Path} (content : Bytes)
    (hplace : tree.locateForWriting path = .ok place) (hkeeps : place.KeepsAt there) :
    tree.Written path content (tree.put there content) := by
  obtain ⟨hfault, hslash, hwalk⟩ := locateForWriting_eq_ok_iff.mp hplace
  obtain ⟨hhosted, hnot⟩ := hosted_of_keepsAt (finds_of_walk hwalk) hkeeps
  have hagain : (tree.put there content).locateForWriting path
      = .ok (.taken there (.file content)) :=
    locateForWriting_eq_ok_iff.mpr
      ⟨hfault, hslash, walk_put content hhosted hnot hwalk hkeeps⟩
  refine .kept there ⟨place, hplace, hkeeps⟩ (node?_put_self content) ?_ hagain ?_
  · intro q hne
    exact node?_put_of_ne content hhosted hne
  · intro hreader
    rw [readBytes, locate_of_locateForWriting hreader hagain]

/-- **A write that succeeds has written the bytes**, and has done nothing else. -/
theorem written_of_write {tree after : FileTree} {path : Text} {content : Bytes}
    (h : tree.write path content = .ok after) : tree.Written path content after := by
  unfold write at h
  cases hplace : tree.locateForWriting path with
  | error fault => simp [hplace] at h
  | ok place =>
    rcases place with ⟨there, old | _ | _ | _⟩ | there
    · simp only [hplace, Except.ok.injEq] at h
      rw [← h]
      exact written_put content hplace (.inr ⟨old, rfl⟩)
    · simp [hplace] at h
    · simp only [hplace, Except.ok.injEq] at h
      exact .swallowed ⟨there, _, hplace, .inl rfl⟩ h.symm
    · -- the full device has taken nothing, which is all it takes
      by_cases hempty : content.isEmpty
      · simp only [hplace, if_pos hempty, Except.ok.injEq] at h
        exact .swallowed ⟨there, _, hplace, .inr rfl⟩ h.symm
      · simp [hplace, hempty] at h
    · simp only [hplace, Except.ok.injEq] at h
      rw [← h]
      exact written_put content hplace (.inl rfl)

/-- A write can only change what is where its path leads. -/
theorem Written.node?_of_not_leads {before after : FileTree} {path : Text} {content : Bytes}
    (h : before.Written path content after) {q : Path} (hq : ¬ before.LeadsToFile path q) :
    after.node? q = before.node? q := by
  cases h with
  | kept there leads holds others again reads =>
    apply others
    rintro rfl
    exact hq leads
  | swallowed leads same => rw [same]

/-- A path that leads to no file leaves the tree as it is. -/
theorem Written.eq_of_not_leads {before after : FileTree} {path : Text} {content : Bytes}
    (h : before.Written path content after) (hq : ∀ q, ¬ before.LeadsToFile path q) :
    after = before := by
  cases h with
  | kept there leads holds others again reads => exact absurd leads (hq there)
  | swallowed leads same => exact same

end FileTree

end SqlStates
