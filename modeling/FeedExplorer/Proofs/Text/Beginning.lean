import FeedExplorer.Text.Width
import Mathlib.Tactic.SplitIfs

/-!
# Beginnings of texts

What cutting a text off does to its clusters and to its width. Main statement: the columns of a
beginning are bounded by those of its characters and those of the whole text. A cut cluster can be
wider than the whole one, as a picture may be put in its place.
-/

namespace FeedExplorer.Text

open scoped Number

/-- The columns of the characters of a text one by one. Those that cannot be shown have none. -/
def charColumns (cs : List Char) : Nat :=
  (cs.map fun c => (glyphWidth? c).getD 0).sum

@[simp] theorem charColumns_nil : charColumns [] = 0 := rfl

@[simp] theorem charColumns_cons (c : Char) (cs : List Char) :
    charColumns (c :: cs) = (glyphWidth? c).getD 0 + charColumns cs := rfl

@[simp] theorem charColumns_append (cs ds : List Char) :
    charColumns (cs ++ ds) = charColumns cs + charColumns ds := by
  simp [charColumns]

theorem charColumns_of_single {cs : List Char} (h : ∀ c ∈ cs, glyphWidth? c = some 1) :
    charColumns cs = cs.length := by
  induction cs with
  | nil => rfl
  | cons c cs ih =>
    obtain ⟨hc, hcs⟩ := List.forall_mem_cons.mp h
    rw [charColumns_cons, hc, ih hcs, Option.getD_some, List.length_cons, Nat.add_comm]

/-! ## The cluster that is cut -/

theorem exists_clustersFrom (current : List Char) (e : ClusterEnd) (cs : List Char) :
    ∃ tail more, clustersFrom current e cs = (current.reverse ++ tail) :: more := by
  induction cs generalizing current e with
  | nil => exact ⟨[], [], by simp [clustersFrom]⟩
  | cons c cs ih =>
    rw [clustersFrom]
    split
    · obtain ⟨tail, more, h⟩ := ih (c :: current) (e.next (.ofChar c))
      exact ⟨c :: tail, more, by simp [h]⟩
    · exact ⟨[], _, by rw [List.append_nil]⟩

theorem exists_clustersFrom_append (current : List Char) (e : ClusterEnd) (cs ds : List Char) :
    ∃ done cut tail more, clustersFrom current e cs = done ++ [cut] ∧
      clustersFrom current e (cs ++ ds) = done ++ (cut ++ tail) :: more := by
  induction cs generalizing current e with
  | nil =>
    obtain ⟨tail, more, h⟩ := exists_clustersFrom current e ds
    exact ⟨[], current.reverse, tail, more, rfl, h⟩
  | cons c cs ih =>
    rw [List.cons_append, clustersFrom, clustersFrom]
    split
    · exact ih _ _
    · obtain ⟨done, cut, tail, more, h, h'⟩ := ih [c] (.start (.ofChar c))
      exact ⟨current.reverse :: done, cut, tail, more, by rw [h]; rfl, by rw [h']; rfl⟩

/-- Cutting a text off cuts one of its clusters and leaves those before it alone. -/
theorem exists_clusters_append {cs : List Char} (hcs : cs ≠ []) (ds : List Char) :
    ∃ done cut tail more, clusters cs = done ++ [cut] ∧
      clusters (cs ++ ds) = done ++ (cut ++ tail) :: more := by
  cases cs with
  | nil => exact absurd rfl hcs
  | cons c cs => exact exists_clustersFrom_append _ _ cs ds

/-! ## Characters that cannot be shown -/

/-- Such a character stands alone, unless it is part of the end of a line. -/
def Separate (cluster : List Char) : Prop :=
  (∃ c, cluster = [c]) ∨ cluster = ['\r', '\n'] ∨ ∀ c ∈ cluster, glyphWidth? c ≠ none

namespace ClusterClass

theorem isBreaker_of_hangul {n : Nat} {k : ClusterClass} (h : hangul? n = some k) :
    k.isBreaker = false := by
  unfold hangul? at h
  split_ifs at h <;> cases h <;> rfl

theorem isBreaker_of_glyphWidth {c : Char} (h : glyphWidth? c = none) :
    (ofChar c).isBreaker = true := by
  have hcontrol : covers controlRanges c.toNat = true := by
    simp only [glyphWidth?] at h
    split_ifs at h
    · simp [controlRanges, covers]
      omega
    · simp [controlRanges, covers]
      omega
  rw [ofChar]
  split_ifs <;> rfl

theorem cases_of_isBreaker {c : Char} (h : (ofChar c).isBreaker = true) :
    c = '\r' ∨ c = '\n' ∨ ofChar c = .control := by
  by_cases hreturn : c = '\r'
  · exact .inl hreturn
  by_cases hfeed : c = '\n'
  · exact .inr (.inl hfeed)
  by_cases hcontrol : covers controlRanges c.toNat = true
  · simp only [ofChar, if_neg hreturn, if_neg hfeed, if_pos hcontrol, or_true]
  · have hother : (ofChar c).isBreaker = false := by
      simp only [ofChar, if_neg hreturn, if_neg hfeed, if_neg hcontrol]
      split
      · rfl
      split
      · rfl
      split
      · rfl
      split
      · next hangul => exact isBreaker_of_hangul hangul
      · split_ifs <;> rfl
    rw [hother] at h
    cases h

theorem eq_of_carriageReturn {c : Char} (h : ofChar c = .carriageReturn) : c = '\r' := by
  rcases cases_of_isBreaker (c := c) (by rw [h]; rfl) with hc | rfl | hc
  · exact hc
  · cases h
  · rw [h] at hc
    cases hc

theorem eq_of_lineFeed {c : Char} (h : ofChar c = .lineFeed) : c = '\n' := by
  rcases cases_of_isBreaker (c := c) (by rw [h]; rfl) with rfl | hc | hc
  · cases h
  · exact hc
  · rw [h] at hc
    cases hc

end ClusterClass

/-- Of the characters that end a cluster only a line feed goes on with one. -/
theorem ClusterEnd.joins_cases {e : ClusterEnd} {k : ClusterClass} (h : e.joins k = true) :
    (e.last = .carriageReturn ∧ k = .lineFeed) ∨
      (e.last.isBreaker = false ∧ k.isBreaker = false) := by
  obtain ⟨last, pictographic, oddRegional⟩ := e
  cases last <;> cases k <;> simp_all [joins, ClusterClass.isBreaker]

theorem Separate.eq_nil {current : List Char} (h : Separate ('\r' :: current).reverse) :
    current = [] := by
  rw [List.reverse_cons] at h
  rcases h with ⟨c, hc⟩ | hend | hshown
  · simpa using congrArg List.length hc
  · have hlast := congrArg List.getLast? hend
    simp at hlast
  · exact absurd rfl (hshown '\r' (by simp))

theorem Separate.shown {c : Char} {current : List Char} (h : Separate (c :: current).reverse)
    (hc : glyphWidth? c ≠ none) : ∀ d ∈ c :: current, glyphWidth? d ≠ none := by
  rw [List.reverse_cons] at h
  rcases h with ⟨d, hd⟩ | hend | hshown
  · have hcurrent : current = [] := by simpa using congrArg List.length hd
    simpa [hcurrent] using hc
  · have hlast := congrArg List.getLast? hend
    rw [List.getLast?_concat] at hlast
    exact absurd (Option.some.inj hlast ▸ rfl) hc
  · simpa [or_comm] using hshown

theorem separate_of_clustersFrom {c : Char} {current : List Char} {e : ClusterEnd}
    (hlast : e.last = .ofChar c) (hcurrent : Separate (c :: current).reverse) (cs : List Char) :
    ∀ cluster ∈ clustersFrom (c :: current) e cs, Separate cluster := by
  induction cs generalizing c current e with
  | nil => simpa [clustersFrom] using hcurrent
  | cons d cs ih =>
    rw [clustersFrom]
    split
    · next hjoins =>
      refine ih rfl ?_
      have hshown (c : Char) (hc : (ClusterClass.ofChar c).isBreaker = false) :
          glyphWidth? c ≠ none := by
        intro hnone
        rw [ClusterClass.isBreaker_of_glyphWidth hnone] at hc
        cases hc
      rcases ClusterEnd.joins_cases hjoins with ⟨hreturn, hfeed⟩ | ⟨hc, hd⟩
      · obtain rfl := ClusterClass.eq_of_carriageReturn (hlast.symm.trans hreturn)
        obtain rfl := ClusterClass.eq_of_lineFeed hfeed
        rw [hcurrent.eq_nil]
        exact .inr (.inl rfl)
      · have hall := hcurrent.shown (hshown c (hlast ▸ hc))
        refine .inr (.inr fun a ha => ?_)
        rcases List.mem_cons.mp (List.mem_reverse.mp ha) with rfl | ha
        · exact hshown a hd
        · exact hall a ha
    · refine List.forall_mem_cons.mpr ⟨hcurrent, ih rfl (.inl ⟨d, rfl⟩)⟩

theorem separate_of_mem_clusters {cs cluster : List Char} (h : cluster ∈ clusters cs) :
    Separate cluster := by
  cases cs with
  | nil => cases h
  | cons c cs => exact separate_of_clustersFrom rfl (.inl ⟨c, rfl⟩) cs cluster h

/-! ## Widths -/

theorem clusterWidth_pos {c : Char} (hc : glyphWidth? c = none) (cs : List Char) :
    0 < clusterWidth (c :: cs) := by
  unfold clusterWidth
  split_ifs
  · exact Nat.one_pos
  · exact Nat.two_pos
  · rw [List.map_cons, List.sum_cons, charWidth, hc]
    exact Nat.add_pos_left Nat.one_pos _

theorem sum_charWidth_of_shown {cs : List Char} (h : ∀ c ∈ cs, glyphWidth? c ≠ none) :
    (cs.map charWidth).sum = charColumns cs := by
  induction cs with
  | nil => rfl
  | cons c cs ih =>
    obtain ⟨hc, hcs⟩ := List.forall_mem_cons.mp h
    obtain ⟨n, hn⟩ := Option.ne_none_iff_exists'.mp hc
    rw [List.map_cons, List.sum_cons, charColumns_cons, ih hcs, charWidth, hn]
    rfl

/-- A picture stays one however it goes on. -/
theorem isPicture_append {cs : List Char} (h : isPicture cs = true) (ds : List Char) :
    isPicture (cs ++ ds) = true := by
  cases cs with
  | nil => cases h
  | cons c cs =>
    cases cs with
    | nil => simp [isPicture] at h
    | cons d cs =>
      simp only [isPicture, List.cons_append, List.head?_cons, List.any_cons, List.any_append,
        Bool.or_eq_true, Bool.and_eq_true] at h ⊢
      exact h.imp_right fun h => ⟨h.1, h.2.imp_right .inl⟩

theorem clusterWidth_of_shown {c : Char} (hc : glyphWidth? c ≠ none) (cs : List Char) :
    clusterWidth (c :: cs) =
      if isPicture (c :: cs) then 2 else ((c :: cs).map charWidth).sum := by
  apply if_neg
  intro heq
  obtain ⟨rfl, -⟩ := List.cons.inj (eq_of_beq heq)
  exact hc rfl

theorem clusterWidth_le {cut : List Char} (h : Separate cut) (tail : List Char) :
    clusterWidth cut ≤ charColumns cut + clusterWidth (cut ++ tail) := by
  rcases h with ⟨c, rfl⟩ | rfl | hshown
  · have hwidth : clusterWidth [c] = charWidth c := by simp [clusterWidth, isPicture]
    rw [hwidth, charWidth]
    cases hc : glyphWidth? c with
    | none => exact Nat.le_add_left_of_le (clusterWidth_pos hc tail)
    | some n => simp [hc]
  · exact Nat.le_add_left_of_le (clusterWidth_pos rfl _)
  · cases cut with
    | nil => exact Nat.zero_le _
    | cons c cut =>
      have hc := hshown c List.mem_cons_self
      rw [List.cons_append, clusterWidth_of_shown hc, clusterWidth_of_shown hc,
        sum_charWidth_of_shown hshown]
      by_cases hpicture : isPicture (c :: cut) = true
      · have hwhole : isPicture (c :: (cut ++ tail)) = true := isPicture_append hpicture tail
        rw [if_pos hpicture, if_pos hwhole]
        exact Nat.le_add_left _ _
      · rw [if_neg hpicture]
        exact Nat.le_add_right _ _

/-- The columns of the beginning of a text. -/
theorem widthOf_le_of_append (cs ds : List Char) :
    widthOf cs ≤ charColumns cs + widthOf (cs ++ ds) := by
  by_cases hcs : cs = []
  · simp [hcs]
  obtain ⟨done, cut, tail, more, hbeginning, hwhole⟩ := exists_clusters_append hcs ds
  have hmem : cut ∈ clusters cs := by simp [hbeginning]
  have hcut := clusterWidth_le (separate_of_mem_clusters hmem) tail
  have hcolumns : charColumns cs = charColumns done.flatten + charColumns cut := by
    have hflatten := flatten_clusters cs
    rw [hbeginning, List.flatten_append] at hflatten
    rw [← hflatten, charColumns_append]
    simp
  simp only [widthOf, hbeginning, hwhole, List.map_append, List.map_cons, List.map_nil,
    List.sum_append, List.sum_cons, List.sum_nil]
  omega

/-! ## Characters that are clusters -/

/-- A character that can be shown and forms no cluster with others of its kind. -/
def Alone (c : Char) : Prop :=
  ClusterClass.ofChar c = .other ∧ glyphWidth? c ≠ none

instance (c : Char) : Decidable (Alone c) :=
  inferInstanceAs (Decidable (_ ∧ _))

theorem clusters_of_class {k : ClusterClass} (hk : (ClusterEnd.start k).joins k = false)
    {cs : List Char} (h : ∀ c ∈ cs, ClusterClass.ofChar c = k) :
    clusters cs = cs.map fun c => [c] := by
  have hfrom (c : Char) (cs : List Char) (h : ∀ d ∈ cs, ClusterClass.ofChar d = k) :
      clustersFrom [c] (.start k) cs = [c] :: cs.map fun c => [c] := by
    induction cs generalizing c with
    | nil => rfl
    | cons d cs ih =>
      obtain ⟨hd, hcs⟩ := List.forall_mem_cons.mp h
      rw [clustersFrom, hd, if_neg (Bool.eq_false_iff.mp hk), ih d hcs]
      rfl
  cases cs with
  | nil => rfl
  | cons c cs =>
    obtain ⟨hc, hcs⟩ := List.forall_mem_cons.mp h
    rw [clusters, hc, hfrom c cs hcs, List.map_cons]

theorem clusters_of_alone {cs : List Char} (h : ∀ c ∈ cs, Alone c) :
    clusters cs = cs.map fun c => [c] :=
  clusters_of_class (k := .other) (by decide) fun c hc => (h c hc).1

theorem clusterWidth_of_alone {c : Char} (h : Alone c) :
    clusterWidth [c] = (glyphWidth? c).getD 0 := by
  obtain ⟨n, hn⟩ := Option.ne_none_iff_exists'.mp h.2
  simp [clusterWidth, isPicture, charWidth, hn]

theorem sum_clusterWidth_of_alone {cs : List Char} (h : ∀ c ∈ cs, Alone c) :
    ((cs.map fun c => [c]).map clusterWidth).sum = charColumns cs := by
  induction cs with
  | nil => rfl
  | cons c cs ih =>
    obtain ⟨hc, hcs⟩ := List.forall_mem_cons.mp h
    rw [List.map_cons, List.map_cons, List.sum_cons, ih hcs, clusterWidth_of_alone hc,
      charColumns_cons]

theorem widthOf_of_alone {cs : List Char} (h : ∀ c ∈ cs, Alone c) :
    widthOf cs = charColumns cs := by
  rw [widthOf, clusters_of_alone h, sum_clusterWidth_of_alone h]

/-- Control characters have a column each in a text, and none one by one. -/
theorem columns_of_control {cs : List Char}
    (h : ∀ c ∈ cs, ClusterClass.ofChar c = .control ∧ glyphWidth? c = none) :
    widthOf cs = cs.length ∧ charColumns cs = 0 := by
  rw [widthOf, clusters_of_class (k := .control) (by decide) fun c hc => (h c hc).1]
  induction cs with
  | nil => exact ⟨rfl, rfl⟩
  | cons c cs ih =>
    obtain ⟨hc, hcs⟩ := List.forall_mem_cons.mp h
    obtain ⟨hwidth, hcolumns⟩ := ih hcs
    have hcluster : clusterWidth [c] = 1 := by simp [clusterWidth, isPicture, charWidth, hc.2]
    constructor
    · rw [List.map_cons, List.map_cons, List.sum_cons, hwidth, hcluster, List.length_cons,
        Nat.add_comm]
    · rw [charColumns_cons, hcolumns, hc.2, Option.getD_none]

end FeedExplorer.Text
