import Phrasebook.Files.Disk

/-!
# Following paths on a disk

What stands at each location of a disk after something has been put somewhere, and where
paths lead. A path has a *destination*: the location that its names lead to one by one,
whatever stands on the way (`Disk.destination`). Opening and creating either fail or come to
the destination. So two paths that can both be followed lead to the same place exactly when
their destinations are the same.

Putting a file where no directory stands changes no directory. A path that could be opened
before is then still opened at the same location, and a path through which the file was
created now opens it.

## Main results

* `get?_set_self`, `get?_set_of_ne`, `set_set`: a disk as a map from locations.
* `locate_eq_ok_iff`, `locateNew_eq_ok_iff`: when a path can be opened or created, and where.
* `locate_set`, `locate_set_of_locateNew`: paths after a file has been put.
-/

namespace Phrasebook.Disk

/-! ### What stands at a location -/

/-- The root is a directory on every disk. -/
@[simp] theorem get?_root (d : Disk) : d.get? [] = some .directory :=
  if_pos rfl

/-- Anywhere but at the root, the entries say what stands there. -/
theorem get?_of_ne_nil {d : Disk} {loc : Location} (h : loc ≠ []) :
    d.get? loc = d.entries.lookup loc :=
  if_neg h

/-- A location where no directory stands is not the root. -/
theorem ne_nil_of_get? {d : Disk} {loc : Location} (h : d.get? loc ≠ some .directory) :
    loc ≠ [] := by
  rintro rfl
  exact h d.get?_root

/-- Leaving out the entries of one location leaves what is found at the others. -/
theorem lookup_filter_ne {entries : List (Location × DiskEntry)} {loc other : Location}
    (h : other ≠ loc) :
    (entries.filter fun e => e.1 != loc).lookup other = entries.lookup other := by
  induction entries with
  | nil => rfl
  | cons e rest ih =>
      obtain ⟨key, entry⟩ := e
      by_cases hkey : key = loc
      · subst hkey
        rw [List.filter_cons_of_neg (by simp), ih, List.lookup_cons, beq_eq_false_iff_ne.mpr h]
      · rw [List.filter_cons_of_pos (by simpa using hkey), List.lookup_cons, List.lookup_cons, ih]

/-- What is put at a location stands there. -/
theorem get?_set_self {d : Disk} {loc : Location} (entry : DiskEntry) (h : loc ≠ []) :
    (d.set loc entry).get? loc = some entry := by
  rw [get?_of_ne_nil h]
  exact List.lookup_cons_self

/-- Putting something at one location leaves the others. -/
theorem get?_set_of_ne {d : Disk} {loc other : Location} (entry : DiskEntry) (h : other ≠ loc) :
    (d.set loc entry).get? other = d.get? other := by
  by_cases hroot : other = []
  · rw [hroot, get?_root, get?_root]
  · rw [get?_of_ne_nil hroot, get?_of_ne_nil hroot, set, List.lookup_cons,
      beq_eq_false_iff_ne.mpr h]
    exact lookup_filter_ne h

/-- Of two things put at one location, the second stays. -/
@[simp] theorem set_set (d : Disk) (loc : Location) (first second : DiskEntry) :
    (d.set loc first).set loc second = d.set loc second := by
  simp [set, List.filter_filter]

/-! ### Where paths lead -/

/-- The location that the names of a path lead to, whatever stands on the way. -/
def destination (d : Disk) (p : Path) : Location :=
  (names p).foldl child (d.origin p)

/-- A row of names that can be entered leads to one place only. -/
theorem enter_eq_foldl {d : Disk} {loc directory : Location} {row : List Bytes}
    (h : d.enter loc row = .ok directory) : directory = row.foldl child loc := by
  induction row generalizing loc with
  | nil => exact (Except.ok.inj h).symm
  | cons name rest ih =>
      rw [enter] at h
      split at h
      · exact absurd h (by simp)
      · exact absurd h (by simp)
      · exact ih h

/-- A path with names is not empty. -/
theorem bytes_ne_nil_of_names {p : Path} {row : List Bytes} {last : Bytes}
    (h : names p = row ++ [last]) : p.bytes ≠ [] := by
  intro hbytes
  rw [names, hbytes] at h
  exact absurd h.symm (by simp [Path.stretches])

/-- A path opens at the origin, if it has no names, or in a directory that its names but the
last lead to; there the last name leads to a directory, or to a file if no slash follows. -/
theorem locate_eq_ok_iff {d : Disk} {p : Path} {loc : Location} :
    d.locate p = .ok loc ↔
      (p.bytes ≠ [] ∧ names p = [] ∧ loc = d.origin p) ∨
        ∃ row last directory, names p = row ++ [last] ∧
          d.enter (d.origin p) row = .ok directory ∧ loc = child directory last ∧
          (d.get? loc = some .directory ∨
            endsInSlash p = false ∧ ∃ content, d.get? loc = some (.file content)) := by
  constructor
  · intro h
    rw [locate] at h
    split at h
    next => exact absurd h (by simp)
    next hbytes =>
      cases hlast : (names p).getLast? with
      | none =>
        rw [hlast] at h
        exact .inl ⟨hbytes, List.getLast?_eq_none_iff.mp hlast, (Except.ok.inj h).symm⟩
      | some last =>
        obtain ⟨row, hnames⟩ := List.getLast?_eq_some_iff.mp hlast
        refine .inr ⟨row, last, ?_⟩
        simp only [hnames, List.getLast?_concat, List.dropLast_concat] at h
        split at h
        next => exact absurd h (by simp)
        next directory henter =>
          refine ⟨directory, hnames, henter, ?_⟩
          split at h
          next => exact absurd h (by simp)
          next content hget =>
            split at h
            next => exact absurd h (by simp)
            next hslash =>
              obtain rfl := Except.ok.inj h
              exact ⟨rfl, .inr ⟨Bool.eq_false_iff.mpr hslash, content, hget⟩⟩
          next hget =>
            obtain rfl := Except.ok.inj h
            exact ⟨rfl, .inl hget⟩
  · rintro (⟨hbytes, hnames, rfl⟩ | ⟨row, last, directory, hnames, henter, rfl, hentry⟩)
    · simp [locate, hbytes, hnames]
    · rw [locate, if_neg (bytes_ne_nil_of_names hnames)]
      simp only [hnames, List.getLast?_concat, List.dropLast_concat, henter]
      obtain hget | ⟨hslash, content, hget⟩ := hentry
      · rw [hget]
      · rw [hget, hslash]
        rfl

/-- A path creates a file in a directory that its names but the last lead to. The last name is
that of the file, so it is none of the dots and no slash follows it, and no directory has that
name. -/
theorem locateNew_eq_ok_iff {d : Disk} {p : Path} {loc : Location} :
    d.locateNew p = .ok loc ↔
      ∃ row last directory, names p = row ++ [last] ∧
        d.enter (d.origin p) row = .ok directory ∧ loc = child directory last ∧
        isDots last = false ∧ endsInSlash p = false ∧ d.get? loc ≠ some .directory := by
  constructor
  · intro h
    rw [locateNew] at h
    split at h
    next => exact absurd h (by simp)
    next hbytes =>
      cases hlast : (names p).getLast? with
      | none =>
        rw [hlast] at h
        exact absurd h (by simp)
      | some last =>
        obtain ⟨row, hnames⟩ := List.getLast?_eq_some_iff.mp hlast
        refine ⟨row, last, ?_⟩
        simp only [hnames, List.getLast?_concat, List.dropLast_concat] at h
        split at h
        next => exact absurd h (by simp)
        next directory henter =>
          refine ⟨directory, hnames, henter, ?_⟩
          split at h
          next => exact absurd h (by simp)
          next hname =>
            rw [Bool.not_eq_true, Bool.or_eq_false_iff] at hname
            split at h
            next => exact absurd h (by simp)
            next hget =>
              obtain rfl := Except.ok.inj h
              exact ⟨rfl, hname.1, hname.2, hget⟩
  · rintro ⟨row, last, directory, hnames, henter, rfl, hdots, hslash, hget⟩
    rw [locateNew, if_neg (bytes_ne_nil_of_names hnames)]
    simp only [hnames, List.getLast?_concat, List.dropLast_concat, henter, hdots, hslash]
    rfl

/-- What is opened through a path stands at its destination. -/
theorem eq_destination_of_locate {d : Disk} {p : Path} {loc : Location}
    (h : d.locate p = .ok loc) : loc = d.destination p := by
  obtain ⟨-, hnames, rfl⟩ | ⟨row, last, directory, hnames, henter, rfl, -⟩ := locate_eq_ok_iff.mp h
  · rw [destination, hnames]
    rfl
  · rw [destination, hnames, List.foldl_append, enter_eq_foldl henter]
    rfl

/-- What is created through a path stands at its destination. -/
theorem eq_destination_of_locateNew {d : Disk} {p : Path} {loc : Location}
    (h : d.locateNew p = .ok loc) : loc = d.destination p := by
  obtain ⟨row, last, directory, hnames, henter, rfl, -⟩ := locateNew_eq_ok_iff.mp h
  rw [destination, hnames, List.foldl_append, enter_eq_foldl henter]
  rfl

/-- A file is not created where a directory stands. -/
theorem get?_of_locateNew {d : Disk} {p : Path} {loc : Location} (h : d.locateNew p = .ok loc) :
    d.get? loc ≠ some .directory := by
  obtain ⟨row, last, directory, -, -, -, -, -, hget⟩ := locateNew_eq_ok_iff.mp h
  exact hget

/-! ### Paths after a file has been put -/

section

variable {d : Disk} {target : Location} (htarget : d.get? target ≠ some .directory)
  (content : Bytes)

include htarget

/-- Directories stay directories. -/
theorem get?_set_directory {loc : Location} (h : d.get? loc = some .directory) :
    (d.set target (.file content)).get? loc = some .directory := by
  rw [get?_set_of_ne, h]
  rintro rfl
  exact htarget h

/-- Files stay files, though one of them may have another content. -/
theorem get?_set_file {loc : Location} {old : Bytes} (h : d.get? loc = some (.file old)) :
    ∃ new, (d.set target (.file content)).get? loc = some (.file new) := by
  by_cases hloc : loc = target
  · exact ⟨content, by rw [hloc, get?_set_self _ (ne_nil_of_get? htarget)]⟩
  · exact ⟨old, by rw [get?_set_of_ne _ hloc, h]⟩

/-- A row of names that could be entered can still be entered. -/
theorem enter_set {loc directory : Location} {row : List Bytes}
    (h : d.enter loc row = .ok directory) :
    (d.set target (.file content)).enter loc row = .ok directory := by
  induction row generalizing loc with
  | nil => exact h
  | cons name rest ih =>
      rw [enter] at h ⊢
      split at h
      · exact absurd h (by simp)
      · exact absurd h (by simp)
      · next hget =>
          rw [get?_set_directory htarget content hget]
          exact ih h

/-- A path that could be opened is still opened at the same location. -/
theorem locate_set {p : Path} {loc : Location} (h : d.locate p = .ok loc) :
    (d.set target (.file content)).locate p = .ok loc := by
  rw [locate_eq_ok_iff] at h ⊢
  obtain hroot | ⟨row, last, directory, hnames, henter, hloc, hentry⟩ := h
  · exact .inl hroot
  · refine .inr ⟨row, last, directory, hnames, enter_set htarget content henter, hloc, ?_⟩
    obtain hget | ⟨hslash, old, hget⟩ := hentry
    · exact .inl (get?_set_directory htarget content hget)
    · exact .inr ⟨hslash, get?_set_file htarget content hget⟩

end

/-- A path through which a file was created opens it. -/
theorem locate_set_of_locateNew {d : Disk} {p : Path} {target : Location} (content : Bytes)
    (h : d.locateNew p = .ok target) : (d.set target (.file content)).locate p = .ok target := by
  have htarget := get?_of_locateNew h
  obtain ⟨row, last, directory, hnames, henter, hloc, -, hslash, -⟩ := locateNew_eq_ok_iff.mp h
  refine locate_eq_ok_iff.mpr (.inr ⟨row, last, directory, hnames, ?_, hloc, .inr ⟨hslash, content, ?_⟩⟩)
  · exact enter_set htarget content henter
  · exact get?_set_self _ (ne_nil_of_get? htarget)

end Phrasebook.Disk
