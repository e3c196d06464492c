import FeedExplorer.Files.Transfer
import FeedExplorer.Proofs.Disk.Writing
import Mathlib.Data.List.TakeWhile

/-!
# Names of fetched files

What the name that a fetched file is kept under can be. Main statements: it names a direct child of
whatever directory it is seen from, and writing that child changes nothing else on the disk.
-/

namespace FeedExplorer.Files

open Disk (Place)
open Text (isBlank)

/-- A name that stands for an entry of a directory, whatever it came from. -/
structure IsChildName (name : String) : Prop where
  ne_empty : name ≠ ""
  ne_dot : name ≠ "."
  ne_dots : name ≠ ".."
  no_separator : ∀ c ∈ name.toList, c ≠ '/' ∧ c ≠ '\\'
  no_blank_first : ∀ c ∈ name.toList.head?, isBlank c = false
  no_blank_last : ∀ c ∈ name.toList.getLast?, isBlank c = false

theorem no_separator_of_mem_lastPart {cs : List Char} {c : Char} (h : c ∈ lastPart cs) :
    c ≠ '/' ∧ c ≠ '\\' := by
  rw [lastPart, List.mem_reverse] at h
  simpa [isSeparator] using List.mem_takeWhile_imp h

theorem isChildName_of_safeName? {name safe : String} (h : safeName? name = some safe) :
    IsChildName safe := by
  unfold safeName? at h
  dsimp only at h
  split at h
  · cases h
  next hpart =>
  obtain rfl := Option.some.inj h
  simp only [Bool.or_eq_true, List.isEmpty_iff, beq_iff_eq, not_or] at hpart
  obtain ⟨⟨hempty, hdot⟩, hdots⟩ := hpart
  have hne : ∀ cs : List Char, Text.trimChars (lastPart name.toList) ≠ cs →
      String.ofList (Text.trimChars (lastPart name.toList)) ≠ String.ofList cs := by
    intro cs hcs heq
    exact hcs (String.ofList_injective heq)
  refine ⟨hne [] hempty, hne ['.'] hdot, hne ['.', '.'] hdots, ?_, ?_, ?_⟩ <;>
    rw [String.toList_ofList]
  · exact fun c hc => no_separator_of_mem_lastPart (Text.mem_of_mem_trimChars hc)
  · exact Text.head?_trimChars _
  · exact Text.getLast?_trimChars _

theorem isChildName_download : IsChildName "download" where
  ne_empty := by decide
  ne_dot := by decide
  ne_dots := by decide
  no_separator := by simp
  no_blank_first := by simp [isBlank]
  no_blank_last := by simp [isBlank]

/-- Neither the store nor whoever asks it can choose another place. -/
theorem isChildName_targetName (filename id : String) : IsChildName (targetName filename id) := by
  rw [targetName]
  cases hfilename : safeName? filename with
  | some safe => exact isChildName_of_safeName? hfilename
  | none =>
    cases hid : safeName? id with
    | some safe => exact isChildName_of_safeName? hid
    | none => exact isChildName_download

theorem piecesFrom_of_no_slash {cs : List Char} (h : ∀ c ∈ cs, c ≠ '/') (current : List Char) :
    Disk.piecesFrom current cs = [String.ofList (current.reverse ++ cs)] := by
  induction cs generalizing current with
  | nil => rw [Disk.piecesFrom, List.append_nil]
  | cons c cs ih =>
    obtain ⟨hc, hcs⟩ := List.forall_mem_cons.mp h
    rw [Disk.piecesFrom, if_neg hc, ih hcs, List.reverse_cons, List.append_assoc]
    rfl

namespace IsChildName

variable {name : String} (h : IsChildName name)

include h

theorem partsOf_eq : Disk.partsOf name = [name] := by
  rw [Disk.partsOf, piecesFrom_of_no_slash fun c hc => (h.no_separator c hc).1]
  simp [h.ne_empty, h.ne_dot]

theorem startsWith_eq_false : name.startsWith "/" = false := by
  rw [String.startsWith_string_eq_false_iff]
  rintro ⟨after, hafter⟩
  exact (h.no_separator '/' (by simp [← hafter])).1 rfl

/-- The name goes behind the path of the directory. -/
theorem join_eq (dir : Place) :
    ∃ gap, dir.join name = ⟨dir.text ++ gap ++ name, dir.parts ++ [name]⟩ := by
  rw [Place.join, if_neg (by simp [h.startsWith_eq_false]), h.partsOf_eq]
  exact ⟨_, rfl⟩

theorem exists_of_locate_join {disk : Disk} {dir : Place} {path : List String}
    (hpath : disk.locate (dir.join name) = .ok path) :
    ∃ there, disk.locate dir = .ok there ∧ disk.lookup? there = some .directory ∧
      path = there ++ [name] := by
  obtain ⟨gap, hjoin⟩ := h.join_eq dir
  rw [hjoin, Disk.locate] at hpath
  split at hpath
  · cases hpath
  next hnul =>
  obtain ⟨there, hthere, hkind, rfl⟩ := Disk.follow_concat rfl h.ne_dots hpath
  have htext : ¬ dir.text.toList.contains '\x00' = true := by
    intro hdir
    exact hnul (by simp_all)
  exact ⟨there, by rw [Disk.locate, if_neg htext, hthere], hkind, rfl⟩

end IsChildName

/-- One file is there that was not, or has other contents: the child of a directory that is there.
Everything else is as it was. -/
def AddsChild (disk disk' : Disk) (dir : Place) (name : String) (bytes : List UInt8) : Prop :=
  ∃ there, disk.locate dir = .ok there ∧ disk.lookup? there = some .directory ∧
    ∀ path, disk'.lookup? path =
      if path = there ++ [name] then some (.file bytes) else disk.lookup? path

theorem IsChildName.addsChild_of_write {name : String} (h : IsChildName name)
    {disk disk' : Disk} {dir : Place} {bytes : List UInt8}
    (hwrite : disk.write (dir.join name) bytes = .ok disk') :
    AddsChild disk disk' dir name bytes := by
  obtain ⟨path, hpath, -, rfl⟩ := Disk.write_eq_ok_iff.mp hwrite
  obtain ⟨there, hthere, hkind, rfl⟩ := h.exists_of_locate_join hpath
  exact ⟨there, hthere, hkind, Disk.lookup?_put (by simp) disk _⟩

end FeedExplorer.Files
