import FeedExplorer.Screen.Split
import Mathlib.Algebra.Order.BigOperators.Group.List
import Mathlib.Algebra.Order.Group.Nat

/-!
# Strips of an area

Where the strips lie into which an area is cut. Main statement: every strip is inside the area, and
below those before it.
-/

namespace FeedExplorer.Screen

open Number (roundUp)
open scoped Number

theorem sum_take_le (ns : List Nat) (i : Nat) : (ns.take i).sum ≤ ns.sum :=
  (List.take_sublist i ns).sum_le_sum fun n _ => Nat.zero_le n

theorem sum_take_mono (ns : List Nat) {i j : Nat} (h : i ≤ j) :
    (ns.take i).sum ≤ (ns.take j).sum :=
  (List.take_sublist_take_left h).sum_le_sum fun n _ => Nat.zero_le n

/-! ## What is given out -/

theorem sum_grow_le (slack : Nat) (es : List Extent) :
    (grow slack es).sum ≤ leastTotal es + slack := by
  induction es generalizing slack with
  | nil => simp [grow]
  | cons e es ih =>
    cases e with
    | exactly n =>
      have hrest := ih slack
      simp only [grow, leastTotal, List.map_cons, Extent.least, List.sum_cons] at hrest ⊢
      omega
    | atLeast n =>
      have hrest := ih 0
      simp only [grow, leastTotal, List.map_cons, Extent.least, List.sum_cons] at hrest ⊢
      omega

theorem sum_keepMinimum_le (room : Nat) (es : List Extent) :
    (keepMinimum room es).sum ≤ room := by
  induction es generalizing room with
  | nil => simp [keepMinimum]
  | cons e es ih =>
    cases e with
    | exactly n =>
      rw [keepMinimum, List.sum_cons, Nat.zero_add]
      exact ih room
    | atLeast n =>
      have hrest := ih (room - n)
      rw [keepMinimum, List.sum_cons]
      omega

/-- One more for each place of a run. -/
theorem sum_mapIdx_le (cells : List Nat) (first count : Nat) :
    (cells.mapIdx fun i n => if first ≤ i ∧ i < first + count then n + 1 else n).sum ≤
      cells.sum + count := by
  induction cells generalizing first count with
  | nil => simp
  | cons n cells ih =>
    rw [List.mapIdx_cons, List.sum_cons, List.sum_cons]
    cases first with
    | succ first =>
      have hrest := ih first count
      have hshift :
          (fun i m => if first + 1 ≤ i + 1 ∧ i + 1 < first + 1 + count then m + 1 else m) =
          fun i m => if first ≤ i ∧ i < first + count then m + 1 else m := by
        funext i m
        congr 1
        simp only [eq_iff_iff]
        omega
      rw [hshift]
      simp
      omega
    | zero =>
      have hrest := ih 0 (count - 1)
      have hshift : (fun i m => if 0 ≤ i + 1 ∧ i + 1 < 0 + count then m + 1 else m) =
          fun i m => if 0 ≤ i ∧ i < 0 + (count - 1) then m + 1 else m := by
        funext i m
        congr 1
        simp only [eq_iff_iff]
        omega
      rw [hshift]
      split <;> omega

theorem sum_addRun_le (r : Run) (cells : List Nat) :
    (addRun r cells).sum ≤ cells.sum + r.count :=
  sum_mapIdx_le cells r.first r.count

theorem serve_le (room : Nat) (cells : List Nat) (rs : List Run) :
    (serve room cells rs).cells.sum + (serve room cells rs).rest ≤ cells.sum + room := by
  induction rs generalizing room cells with
  | nil => simp [serve]
  | cons r rs ih =>
    rw [serve]
    split
    · have hrest := ih (room - r.count) (addRun r cells)
      have hrun := sum_addRun_le r cells
      omega
    · exact Nat.le_refl _

/-- No more is given out than there is. -/
theorem sharesOf_le (length : Nat) (es : List Extent) :
    (sharesOf length es).cells.sum + (sharesOf length es).rest ≤ length := by
  rw [sharesOf]
  split
  · have hgrow := sum_grow_le (length - leastTotal es) es
    dsimp only
    omega
  · have hkept := sum_keepMinimum_le length es
    have hserve := serve_le (length - (keepMinimum length es).sum) (keepMinimum length es)
      (served es)
    dsimp only
    omega

/-! ## Boundaries -/

namespace Shares

theorem boundary_mono (s : Shares) {i j : Nat} (h : i ≤ j) : s.boundary i ≤ s.boundary j := by
  apply Nat.add_le_add
  · exact sum_take_mono s.cells h
  · apply Number.roundUp_mono
    apply Nat.mul_le_mul_left
    omega

theorem boundary_le (s : Shares) (i : Nat) : s.boundary i ≤ s.cells.sum + s.rest := by
  apply Nat.add_le_add
  · exact sum_take_le s.cells i
  · have hall : s.rest * min (i - s.run.first) s.run.count ≤ s.rest * s.run.count :=
      Nat.mul_le_mul_left _ (Nat.min_le_right _ _)
    apply Nat.le_trans (Number.roundUp_mono hall)
    by_cases hcount : s.run.count = 0
    · simp [hcount, roundUp]
    · exact Nat.le_of_eq (Number.roundUp_mul s.rest (Nat.pos_of_ne_zero hcount))

end Shares

namespace Area

/-- One area is inside another. -/
structure Within (a b : Area) : Prop where
  left : b.x ≤ a.x
  right : a.right ≤ b.right
  top : b.y ≤ a.y
  bottom : a.bottom ≤ b.bottom

variable {a b s t : Area} {es : List Extent} {i j : Nat}

theorem Within.inter_eq (h : a.Within b) : a.inter b = a := by
  obtain ⟨x, y, width, height⟩ := a
  obtain ⟨hleft, hright, htop, hbottom⟩ := h
  simp only [inter, Area.right, Area.bottom, mk.injEq] at *
  omega

theorem Within.trans {c : Area} (h : a.Within b) (h' : b.Within c) : a.Within c where
  left := Nat.le_trans h'.left h.left
  right := Nat.le_trans h.right h'.right
  top := Nat.le_trans h'.top h.top
  bottom := Nat.le_trans h.bottom h'.bottom

theorem within_inner (a : Area) : a.inner.Within a := by
  constructor
  all_goals
    simp only [inner, right, bottom]
    omega

/-- The strip `i` lies between two boundaries. -/
theorem getElem?_stacked (h : i < es.length) :
    (a.stacked es)[i]? = some
      { a with
        y := a.y + (sharesOf a.height es).boundary i
        height :=
          (sharesOf a.height es).boundary (i + 1) - (sharesOf a.height es).boundary i } := by
  simp [stacked, strips, h]

/-- There is a strip for each extent. -/
theorem getElem?_stacked_getD (h : i < es.length) (other : Area) :
    (a.stacked es)[i]? = some (((a.stacked es)[i]?).getD other) := by
  rw [getElem?_stacked h, Option.getD_some]

theorem bottom_of_stacked (h : (a.stacked es)[i]? = some s) :
    s.y = a.y + (sharesOf a.height es).boundary i ∧
      s.bottom = a.y + (sharesOf a.height es).boundary (i + 1) := by
  obtain ⟨hi, -⟩ := List.getElem?_eq_some_iff.mp h
  rw [length_stacked] at hi
  obtain rfl := Option.some.inj ((getElem?_stacked hi).symm.trans h)
  have hmono := (sharesOf a.height es).boundary_mono (Nat.le_add_right i 1)
  refine ⟨rfl, ?_⟩
  change a.y + _ + (_ - _) = _
  omega

/-- A strip is below every strip before it. -/
theorem bottom_le_of_stacked (hs : (a.stacked es)[i]? = some s) (ht : (a.stacked es)[j]? = some t)
    (h : i < j) : s.bottom ≤ t.y := by
  rw [(bottom_of_stacked hs).2, (bottom_of_stacked ht).1]
  exact Nat.add_le_add_left ((sharesOf a.height es).boundary_mono h) _

theorem within_of_stacked (h : (a.stacked es)[i]? = some s) : s.Within a := by
  obtain ⟨hx, hwidth⟩ := width_of_mem_stacked (List.mem_of_getElem? h)
  obtain ⟨htop, hbottom⟩ := bottom_of_stacked h
  have hlast :=
    Nat.le_trans ((sharesOf a.height es).boundary_le (i + 1)) (sharesOf_le a.height es)
  constructor
  · omega
  · have hright : s.right = a.right := by
      rw [right, right, hx, hwidth]
    exact Nat.le_of_eq hright
  · omega
  · rw [hbottom, bottom]
    exact Nat.add_le_add_left hlast _

/-- Areas next to each other, out of weights that do not exceed the whole, are inside the area. -/
theorem within_of_sideBySide {whole : Nat} {weights : List Nat} (hwhole : 0 < whole)
    (hweights : weights.sum ≤ whole) (h : s ∈ a.sideBySide whole weights) : s.Within a := by
  obtain ⟨part, hpart, rfl⟩ := List.mem_map.mp h
  obtain ⟨i, -, rfl⟩ := List.mem_map.mp hpart
  have hle (i : Nat) : roundUp (a.width * (weights.take i).sum) whole ≤ a.width := by
    calc roundUp (a.width * (weights.take i).sum) whole ≤ roundUp (a.width * whole) whole :=
          Number.roundUp_mono (Nat.mul_le_mul_left _ (Nat.le_trans (sum_take_le _ _) hweights))
      _ = a.width := Number.roundUp_mul a.width hwhole
  have hstart := hle i
  have hend := hle (i + 1)
  constructor
  · exact Nat.le_add_right _ _
  · simp only [right]
    omega
  · exact Nat.le_refl _
  · exact Nat.le_refl _

end Area

end FeedExplorer.Screen
