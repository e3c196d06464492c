import FeedExplorer.Text.Blank
import Mathlib.Data.List.TakeWhile

/-!
# Blanks around a text

Main statements: cutting off the blanks at both ends undoes putting some there, and keeps every
other character.
-/

namespace FeedExplorer.Text

/-- There is nothing but blanks. -/
def AllBlank (cs : List Char) : Prop :=
  ∀ c ∈ cs, isBlank c = true

theorem AllBlank.reverse {cs : List Char} (h : AllBlank cs) : AllBlank cs.reverse :=
  fun c hc => h c (List.mem_reverse.mp hc)

theorem dropWhile_blanks_append {blanks : List Char} (h : AllBlank blanks) (cs : List Char) :
    (blanks ++ cs).dropWhile isBlank = cs.dropWhile isBlank :=
  List.dropWhile_append_of_pos h

theorem trimEndChars_append_blanks {blanks : List Char} (h : AllBlank blanks) (cs : List Char) :
    trimEndChars (cs ++ blanks) = trimEndChars cs := by
  rw [trimEndChars, List.reverse_append, dropWhile_blanks_append h.reverse, trimEndChars]

theorem trimChars_between {front back : List Char} (hfront : AllBlank front)
    (hback : AllBlank back) (cs : List Char) : trimChars (front ++ cs ++ back) = trimChars cs := by
  rw [trimChars, List.append_assoc, dropWhile_blanks_append hfront, List.dropWhile_append]
  split
  · next hcs =>
    rw [trimChars, List.isEmpty_iff.mp hcs, List.dropWhile_eq_nil_iff.mpr hback]
  · rw [trimEndChars_append_blanks hback, trimChars]

theorem mem_dropWhile_isBlank {cs : List Char} {c : Char} (h : c ∈ cs) (hc : isBlank c = false) :
    c ∈ cs.dropWhile isBlank := by
  rw [← List.takeWhile_append_dropWhile (p := isBlank) (l := cs)] at h
  rcases List.mem_append.mp h with h | h
  · rw [List.mem_takeWhile_imp h] at hc
    cases hc
  · exact h

theorem mem_trimChars {cs : List Char} {c : Char} (h : c ∈ cs) (hc : isBlank c = false) :
    c ∈ trimChars cs := by
  have hfront := mem_dropWhile_isBlank h hc
  rw [trimChars, trimEndChars, List.mem_reverse]
  exact mem_dropWhile_isBlank (List.mem_reverse.mpr hfront) hc

end FeedExplorer.Text
