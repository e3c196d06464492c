import FeedExplorer.Disk.Basic
import FeedExplorer.Proofs.Json.Record

/-!
# Writing to the disk

What making directories and writing a file leave as it was. Main statements: making directories
changes no file, and a file that has been written is read back.
-/

namespace FeedExplorer.Disk

open Json (bind_eq_ok_iff)

variable {d d' : Disk} {p : Place} {path gone parts : List String} {entry : Entry}

theorem lookup?_of_ne_nil (hpath : path ≠ []) : d.lookup? path = d.entries.lookup path := by
  rw [lookup?, if_neg (by simpa using hpath)]

/-- Nothing changes but what stands at the path. -/
theorem lookup?_put (hpath : path ≠ []) (d : Disk) (entry : Entry) (q : List String) :
    (d.put path entry).lookup? q = if q = path then some entry else d.lookup? q := by
  by_cases hnil : q = []
  · subst hnil
    rw [if_neg hpath.symm]
    rfl
  rw [lookup?_of_ne_nil hnil, lookup?_of_ne_nil hnil, put, List.lookup_cons]
  by_cases hq : q = path
  · simp [hq]
  · have hbeq : (q == path) = false := by simpa using hq
    have hfilter : ∀ entries : List (List String × Entry),
        (entries.filter (·.1 != path)).lookup q = entries.lookup q := by
      intro entries
      induction entries with
      | nil => rfl
      | cons e entries ih =>
        by_cases he : e.1 = path
        · have hqe : (q == e.1) = false := by simpa [he] using hq
          rw [List.filter_cons_of_neg (by simp [he]), List.lookup_cons, hqe, ih]
        · rw [List.filter_cons_of_pos (by simp [he]), List.lookup_cons, List.lookup_cons, ih]
    rw [hbeq, hfilter, if_neg hq]

/-! ## More directories -/

/-- The second disk has what the first has, and apart from that directories alone. -/
structure Extends (d d' : Disk) : Prop where
  keeps : ∀ path entry, d.lookup? path = some entry → d'.lookup? path = some entry
  files : ∀ path bytes, d'.lookup? path = some (.file bytes) → d.lookup? path = some (.file bytes)

theorem Extends.refl (d : Disk) : Extends d d :=
  ⟨fun _ _ h => h, fun _ _ h => h⟩

theorem Extends.trans {d'' : Disk} (h : Extends d d') (h' : Extends d' d'') : Extends d d'' :=
  ⟨fun q e hq => h'.keeps q e (h.keeps q e hq), fun q b hq => h.files q b (h'.files q b hq)⟩

theorem Extends.file_iff (h : Extends d d') (path : List String) (bytes : List UInt8) :
    d'.lookup? path = some (.file bytes) ↔ d.lookup? path = some (.file bytes) :=
  ⟨h.files path bytes, h.keeps path _⟩

theorem extends_put_directory (hpath : d.lookup? path = none) :
    Extends d (d.put path .directory) := by
  have hne : path ≠ [] := by
    rintro rfl
    cases hpath
  constructor
  · intro q e hq
    have hother : q ≠ path := by
      rintro rfl
      rw [hpath] at hq
      cases hq
    rw [lookup?_put hne, if_neg hother, hq]
  · intro q b hq
    rw [lookup?_put hne] at hq
    split at hq
    · cases hq
    · exact hq

theorem extends_makeAll (h : d.makeAll gone parts = .ok d') : Extends d d' := by
  induction parts generalizing d gone with
  | nil =>
    obtain rfl := Except.ok.inj h
    exact .refl d
  | cons part parts ih =>
    rw [makeAll] at h
    split at h
    · exact ih h
    · cases h
    · next hnone => exact (extends_put_directory hnone).trans (ih h)

theorem extends_makeDirectories (h : d.makeDirectories p = .ok d') : Extends d d' :=
  extends_makeAll h

/-! ## Reading what has been written -/

/-- A path leads to the same place as long as the directories on it are there. -/
theorem follow_of_directories (h : d.follow gone parts = .ok path)
    (hkept : ∀ q, d.lookup? q = some .directory → d'.lookup? q = some .directory) :
    d'.follow gone parts = .ok path := by
  induction parts generalizing gone with
  | nil => exact h
  | cons part parts ih =>
    rw [follow] at h ⊢
    split at h
    · cases h
    next hlong =>
    rw [if_neg hlong]
    dsimp only at h ⊢
    split at h
    · next hlast => rw [if_pos hlast, h]
    next hlast =>
    rw [if_neg hlast]
    split at h
    · next hdirectory =>
      rw [hkept _ hdirectory]
      exact ih h
    · cases h
    · cases h

theorem locate_of_directories (h : d.locate p = .ok path)
    (hkept : ∀ q, d.lookup? q = some .directory → d'.lookup? q = some .directory) :
    d'.locate p = .ok path := by
  unfold locate at h ⊢
  split at h
  · cases h
  next hnul =>
  rw [if_neg hnul]
  exact follow_of_directories h hkept

/-- A path ends in its last part. -/
theorem getLast?_follow {name : String} (hname : name ≠ "..")
    (h : d.follow gone (parts ++ [name]) = .ok path) : path.getLast? = some name := by
  induction parts generalizing gone with
  | nil =>
    simp only [List.nil_append, follow, if_neg hname, List.isEmpty_nil, if_true] at h
    split at h
    · cases h
    · obtain rfl := Except.ok.inj h
      simp
  | cons part parts ih =>
    rw [List.cons_append, follow] at h
    split at h
    · cases h
    dsimp only at h
    rw [if_neg (by simp)] at h
    split at h
    · exact ih h
    · cases h
    · cases h

/-- A name that does not lead upward stands behind a path that leads to a directory. -/
theorem follow_concat {name : String} (hgone : d.lookup? gone.reverse = some .directory)
    (hname : name ≠ "..") (h : d.follow gone (parts ++ [name]) = .ok path) :
    ∃ there, d.follow gone parts = .ok there ∧ d.lookup? there = some .directory ∧
      path = there ++ [name] := by
  induction parts generalizing gone with
  | nil =>
    simp only [List.nil_append, follow, if_neg hname, List.isEmpty_nil, if_true] at h
    split at h
    · cases h
    · obtain rfl := Except.ok.inj h
      exact ⟨gone.reverse, rfl, hgone, by simp⟩
  | cons part parts ih =>
    rw [List.cons_append, follow] at h
    rw [follow]
    split at h
    · cases h
    next hlong =>
    rw [if_neg hlong]
    dsimp only at h ⊢
    rw [if_neg (by simp)] at h
    split at h
    · next hdirectory =>
      obtain ⟨there, hthere, hkind, hpath⟩ := ih hdirectory h
      refine ⟨there, ?_, hkind, hpath⟩
      split
      · next hlast =>
        rw [List.isEmpty_iff.mp hlast] at hthere
        exact hthere
      · exact hthere
    · cases h
    · cases h

theorem write_eq_ok_iff {bytes : List UInt8} :
    d.write p bytes = .ok d' ↔ ∃ path, d.locate p = .ok path ∧ d.lookup? path ≠ some .directory ∧
      d' = d.put path (.file bytes) := by
  rw [write, bind_eq_ok_iff]
  refine exists_congr fun path => and_congr_right fun _ => ?_
  split
  · next hdirectory => simp [hdirectory]
  · next hother =>
    have hfile : d.lookup? path ≠ some .directory := hother
    simp [hfile, pure, Except.pure, eq_comm]

/-- A file that has been written is there, with what has been written. -/
theorem read_of_write {bytes : List UInt8} (h : d.write p bytes = .ok d') :
    d'.holds p = true ∧ d'.read p = .ok bytes := by
  obtain ⟨path, hlocate, hfile, rfl⟩ := write_eq_ok_iff.mp h
  have hne : path ≠ [] := by
    rintro rfl
    exact hfile rfl
  have hkept : ∀ q, d.lookup? q = some .directory →
      (d.put path (.file bytes)).lookup? q = some .directory := by
    intro q hq
    have hother : q ≠ path := by
      rintro rfl
      exact hfile hq
    rw [lookup?_put hne, if_neg hother, hq]
  have hthere : (d.put path (.file bytes)).locate p = .ok path :=
    locate_of_directories hlocate hkept
  have hbytes : (d.put path (.file bytes)).lookup? path = some (.file bytes) := by
    rw [lookup?_put hne, if_pos rfl]
  constructor
  · rw [holds, hthere]
    dsimp only
    rw [hbytes]
    rfl
  · rw [read, hthere, Json.ok_bind, hbytes]
    rfl

end FeedExplorer.Disk
