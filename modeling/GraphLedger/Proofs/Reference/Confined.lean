import GraphLedger.Reference.Loader

/-! # Files below a root

A loader of files may be confined to a root. What a reference says of a file is joined to the root
if it is relative, and must begin with the components of the root if it is not; and it must not go
up anywhere. Slashes only separate, so that the parts of a joined path are those of the root and
then those of the reference, however many slashes stand between them, and single dots among these
parts do not count. So the file is found by going down from the root, in both cases, and a file that
is not below the root is never read. This is about the components of paths; where links lead is
another matter.

* `split_append`: the parts of a text on both sides of a slash.
* `components_join`: the components of a joined path.
* `Within`: what lies below a root; `within_join`, `within_of_isBelow`.
* `within_of_pathOf`: a reference means a path below the root.
* `references_stay_below`: so what is loaded depends on the files there. -/

namespace GraphLedger

namespace FilePath

/-! ### Parts between slashes -/

theorem splitFrom_append (part a b : List Char) :
    splitFrom part (a ++ '/' :: b) = splitFrom part a ++ split b := by
  induction a generalizing part with
  | nil => rfl
  | cons c cs ih =>
    rw [List.cons_append, splitFrom, splitFrom]
    split
    · rw [ih, List.cons_append]
    · exact ih (c :: part)

/-- **The parts on both sides of a slash** are the parts of the whole. -/
theorem split_append (a b : List Char) : split (a ++ '/' :: b) = split a ++ split b :=
  splitFrom_append [] a b

theorem splitFrom_ne_nil (part cs : List Char) : splitFrom part cs ≠ [] := by
  induction cs generalizing part with
  | nil => exact List.cons_ne_nil _ _
  | cons c cs ih =>
    rw [splitFrom]
    split
    · exact List.cons_ne_nil _ _
    · exact ih _

/-! ### Components -/

/-- Where a path begins, if that is a component. -/
def beginning (cs : List Char) : List Component :=
  if cs.head? = some '/' then [.root] else if (split cs).head? = some ['.'] then [.here] else []

/-- The components of a path but for where it begins. -/
def descent (cs : List Char) : List Component := (split cs).filterMap component?

theorem components_eq (path : String) :
    components path = beginning path.toList ++ descent path.toList := by
  simp only [components, isAbsolute, decide_eq_true_eq]
  rfl

theorem descent_append (a b : List Char) : descent (a ++ '/' :: b) = descent a ++ descent b := by
  rw [descent, split_append, List.filterMap_append]
  rfl

theorem head_split_append (a b : List Char) : (split (a ++ '/' :: b)).head? = (split a).head? := by
  rw [split_append, List.head?_append]
  cases hsplit : split a with
  | nil => exact absurd hsplit (splitFrom_ne_nil [] a)
  | cons part parts => rfl

theorem beginning_append (a b : List Char) : beginning (a ++ '/' :: b) = beginning (a ++ ['/']) := by
  rw [beginning, beginning, head_split_append, head_split_append, List.head?_append,
    List.head?_append]
  rfl

theorem beginning_concat {a : List Char} (ha : a ≠ []) : beginning (a ++ ['/']) = beginning a := by
  rw [beginning, head_split_append, List.head?_append]
  cases a with
  | nil => exact absurd rfl ha
  | cons c cs => rfl

/-- **The components of a joined path** are those of the base, and then those of the relative path
but for a dot at its beginning. -/
theorem components_join {base path : String} (hbase : base ≠ "") (hpath : isAbsolute path = false) :
    components (join base path) = components base ++ descent path.toList := by
  have hempty : base.isEmpty = false := by
    simpa using hbase
  rw [join, hpath, hempty, if_neg Bool.false_ne_true, Bool.false_or]
  simp only [decide_eq_true_eq]
  split
  · -- the base has a slash at its end
    rename_i hslash
    obtain ⟨a, ha⟩ := List.getLast?_eq_some_iff.mp hslash
    rw [components_eq, components_eq, String.toList_append, ha, List.append_assoc,
      List.singleton_append, beginning_append, descent_append, descent_append]
    simp [descent, split, splitFrom, component?]
  · have hne : base.toList ≠ [] := fun h => hbase (String.toList_eq_nil_iff.mp h)
    rw [components_eq, components_eq, String.toList_append, String.toList_append]
    have hjoined : base.toList ++ "/".toList ++ path.toList = base.toList ++ '/' :: path.toList := by
      simp
    rw [hjoined, beginning_append, beginning_concat hne, descent_append, List.append_assoc]

/-! ### Going down -/

/-- **A path lies below a root** if it is found by going down from there: its components are those
of the root, and then others none of which goes up. -/
def Within (root path : String) : Prop :=
  ∃ below, components path = components root ++ below ∧ Component.parent ∉ below

theorem parent_not_mem_of_goesUp {path : String} (h : goesUp path = false) :
    Component.parent ∉ components path := by
  rw [goesUp] at h
  simpa using h

theorem within_of_isBelow {root path : String} (hup : goesUp path = false)
    (h : isBelow root path = true) : Within root path := by
  obtain ⟨below, hbelow⟩ := List.isPrefixOf_iff_prefix.mp h
  refine ⟨below, hbelow.symm, fun hparent => parent_not_mem_of_goesUp hup ?_⟩
  rw [← hbelow]
  exact List.mem_append_right _ hparent

/-- **A relative path is joined to a root below it**, unless it goes up. -/
theorem within_join {root path : String} (hup : goesUp path = false)
    (h : isAbsolute path = false) : Within root (join root path) := by
  have hparent := parent_not_mem_of_goesUp hup
  by_cases hroot : root = ""
  · -- the empty root has no components, and nothing is put before the path
    subst hroot
    have hjoin : join "" path = path := by simp [join, h]
    rw [hjoin]
    exact ⟨components path, rfl, hparent⟩
  · refine ⟨descent path.toList, components_join hroot h, fun hmem => hparent ?_⟩
    rw [components_eq]
    exact List.mem_append_right _ hmem

end FilePath

namespace Loader

/-! ### References -/

section Root
variable {root : String} {r : Reference}

/-- **A reference means a path below the root**, if it means one. -/
theorem within_of_pathOf {path : String} (h : pathOf (some root) r = .ok path) :
    FilePath.Within root path := by
  unfold pathOf at h
  split at h
  · cases h
  split at h
  · cases h
  rename_i raw _ hup
  rw [Bool.not_eq_true] at hup
  dsimp only at h
  split at h
  · rename_i hrelative
    cases h
    exact FilePath.within_join hup (by simpa using hrelative)
  · split at h
    · rename_i hbelow
      cases h
      exact FilePath.within_of_isBelow hup hbelow
    · cases h

/-- **Files that are not below the root do not matter** for what is read. -/
theorem readFile_congr {read read' : String → Option String}
    (h : ∀ path, FilePath.Within root path → read path = read' path) :
    readFile (some root) read r = readFile (some root) read' r := by
  unfold readFile
  cases checkFormat r with
  | error e => rfl
  | ok u =>
    cases hpath : pathOf (some root) r with
    | error e => rfl
    | ok path =>
      dsimp only [Bind.bind, Except.bind]
      rw [h path (within_of_pathOf hpath)]

end Root

/-- **References to files stay below the root.** Let a loader of files be confined to a root. If a
reference means a path, then the components of this path are those of the root and behind them
others of which none goes up, however the reference is written. So what is loaded depends on the
files below the root and on no others. -/
theorem references_stay_below (root : String) (r : Reference) :
    (∀ path, pathOf (some root) r = .ok path → ∃ below,
      FilePath.components path = FilePath.components root ++ below ∧
        FilePath.Component.parent ∉ below) ∧
    ∀ read read' : String → Option String,
      (∀ path, FilePath.Within root path → read path = read' path) →
      (file (some root) read).load r = (file (some root) read').load r := by
  refine ⟨fun path h => within_of_pathOf h, fun read read' h => ?_⟩
  funext next
  show loadFile (some root) read r next = loadFile (some root) read' r next
  rw [loadFile, loadFile, readFile_congr h]

/-- Two references to one file below a root: a relative one with dots and slashes that do not
count, and an absolute one. A sibling of the root whose name begins with that of the root is not
below it, and its contents do not matter. -/
theorem references_stay_below_of_sibling :
    let root := "/srv/refs/"
    let relative : Reference := ⟨"file://./a//b.json/.", none⟩
    let absolute : Reference := ⟨"file:////srv/./refs/a/b.json", none⟩
    let sibling : Reference := ⟨"file:///srv/refs2/b.json", none⟩
    let read : String → Option String := fun _ => none
    let read' : String → Option String := fun path =>
      if path = "/srv/refs2/b.json" then some "[]" else none
    (∃ path, pathOf (some root) relative = .ok path ∧ ∃ below,
      FilePath.components path = FilePath.components root ++ below ∧
        FilePath.Component.parent ∉ below) ∧
    (∃ path, pathOf (some root) absolute = .ok path ∧ ∃ below,
      FilePath.components path = FilePath.components root ++ below ∧
        FilePath.Component.parent ∉ below) ∧
    (file (some root) read).load sibling = (file (some root) read').load sibling := by
  intro root relative absolute sibling read read'
  have hmeans : ∀ {r : Reference} {path : String},
      (pathOf (some root) r).toOption = some path → pathOf (some root) r = .ok path := by
    intro r path h
    cases hpath : pathOf (some root) r with
    | ok path' => rw [hpath] at h; cases h; rfl
    | error e => rw [hpath] at h; cases h
  have hrelative : pathOf (some root) relative = .ok "/srv/refs/./a//b.json/." :=
    hmeans (by decide +kernel)
  have habsolute : pathOf (some root) absolute = .ok "//srv/./refs/a/b.json" :=
    hmeans (by decide +kernel)
  refine ⟨⟨_, hrelative, (references_stay_below root relative).1 _ hrelative⟩,
    ⟨_, habsolute, (references_stay_below root absolute).1 _ habsolute⟩,
    (references_stay_below root sibling).2 read read' fun path hpath => ?_⟩
  have hsibling : ¬ FilePath.Within root "/srv/refs2/b.json" := by
    rintro ⟨below, hbelow, -⟩
    have hprefix : FilePath.components root <+: FilePath.components "/srv/refs2/b.json" :=
      ⟨below, hbelow.symm⟩
    revert hprefix
    decide +kernel
  have hne : path ≠ "/srv/refs2/b.json" := fun he => hsibling (he ▸ hpath)
  exact (if_neg hne).symm

end Loader

end GraphLedger
