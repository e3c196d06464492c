import FeedExplorer.Screen.Panel
import Mathlib.Data.List.Basic

/-!
# Strokes

Painting changes one cell after another, and what becomes of a cell depends on nothing but that
cell. Main statement: a panel changes no cell above its area and none below it.
-/

namespace FeedExplorer.Screen

namespace Grid

/-- A grid becomes another by strokes, each of which changes a single cell in an allowed way. -/
inductive Strokes (allowed : Nat → Nat → (Cell → Cell) → Prop) (g : Grid) : Grid → Prop
  | nil : Strokes allowed g g
  | stroke {g' : Grid} {x y : Nat} {f : Cell → Cell} (h : Strokes allowed g g')
      (hf : allowed x y f) : Strokes allowed g (g'.change x y f)

/-- Two grids of one size have the same cell in a place. -/
def SameAt (x y : Nat) (g g' : Grid) : Prop :=
  g.area = g'.area ∧ g.get? x y = g'.get? x y

@[simp] theorem area_change (g : Grid) (x y : Nat) (f : Cell → Cell) :
    (g.change x y f).area = g.area := by
  rw [area, width_change, height_change]
  rfl

namespace Strokes

variable {allowed allowed' : Nat → Nat → (Cell → Cell) → Prop} {g g' g'' : Grid}

theorem trans (h : Strokes allowed g g') (h' : Strokes allowed g' g'') : Strokes allowed g g'' := by
  induction h' with
  | nil => exact h
  | stroke _ hf ih => exact ih.stroke hf

theorem mono (h : Strokes allowed g g') (himp : ∀ x y f, allowed x y f → allowed' x y f) :
    Strokes allowed' g g' := by
  induction h with
  | nil => exact nil
  | stroke _ hf ih => exact ih.stroke (himp _ _ _ hf)

theorem single {x y : Nat} {f : Cell → Cell} (hf : allowed x y f) :
    Strokes allowed g (g.change x y f) :=
  nil.stroke hf

/-- Some painting for every item of a list. -/
theorem foldl {α : Type} {paint : Grid → α → Grid} {items : List α}
    (h : ∀ g, ∀ item ∈ items, Strokes allowed g (paint g item)) :
    Strokes allowed g (items.foldl paint g) := by
  induction items generalizing g with
  | nil => exact nil
  | cons item items ih =>
    apply (h g item List.mem_cons_self).trans
    exact ih fun g item hitem => h g item (List.mem_cons_of_mem _ hitem)

theorem area_eq (h : Strokes allowed g g') : g'.area = g.area := by
  induction h with
  | nil => rfl
  | stroke _ _ ih => rw [area_change, ih]

theorem isSome_eq (h : Strokes allowed g g') (x y : Nat) :
    (g'.get? x y).isSome = (g.get? x y).isSome := by
  induction h with
  | nil => rfl
  | stroke _ _ ih =>
    rw [get?_change]
    split
    · rw [Option.isSome_map, ih]
    · exact ih

/-- A property of a cell that no stroke takes away. -/
theorem keeps (h : Strokes allowed g g') {P : Cell → Prop} {x y : Nat}
    (hkeeps : ∀ f, allowed x y f → ∀ c, P c → P (f c))
    (hbefore : ∀ c ∈ g.get? x y, P c) : ∀ c ∈ g'.get? x y, P c := by
  induction h with
  | nil => exact hbefore
  | @stroke g' x' y' f _ hf ih =>
    rw [get?_change]
    split
    · next hplace =>
      obtain ⟨rfl, rfl⟩ := hplace
      intro c hc
      obtain ⟨d, hd, rfl⟩ := Option.map_eq_some_iff.mp hc
      exact hkeeps f hf d (ih d hd)
    · exact ih

/-- A cell that no stroke may change is left alone. -/
theorem sameAt (h : Strokes allowed g g') {x y : Nat} (hnone : ∀ f, ¬ allowed x y f) :
    SameAt x y g g' := by
  refine ⟨h.area_eq.symm, ?_⟩
  induction h with
  | nil => rfl
  | @stroke g' x' y' f _ hf ih =>
    rw [get?_change, if_neg, ih]
    rintro ⟨rfl, rfl⟩
    exact hnone f hf

end Strokes

/-! ## Filling an area -/

section Fill

variable (g : Grid) (a : Area) (f : Cell → Cell)

theorem get?_changeColumns (x₀ y₀ n x y : Nat) :
    ((List.range n).foldl (fun g j => g.change (x₀ + j) y₀ f) g).get? x y =
      if y = y₀ ∧ x₀ ≤ x ∧ x < x₀ + n then (g.get? x y).map f else g.get? x y := by
  induction n with
  | zero =>
    rw [List.range_zero, List.foldl_nil, if_neg]
    omega
  | succ n ih =>
    rw [List.range_succ, List.foldl_append, List.foldl_cons, List.foldl_nil, get?_change, ih]
    by_cases hlast : x₀ + n = x ∧ y₀ = y
    · rw [if_pos hlast, if_neg (by omega), if_pos (by omega)]
    · rw [if_neg hlast]
      congr 1
      simp only [eq_iff_iff]
      omega

theorem get?_changeRows (x₀ y₀ n m x y : Nat) :
    ((List.range m).foldl (fun g i =>
        (List.range n).foldl (fun g j => g.change (x₀ + j) (y₀ + i) f) g) g).get? x y =
      if (x₀ ≤ x ∧ x < x₀ + n) ∧ y₀ ≤ y ∧ y < y₀ + m then (g.get? x y).map f
      else g.get? x y := by
  induction m with
  | zero =>
    rw [List.range_zero, List.foldl_nil, if_neg]
    omega
  | succ m ih =>
    rw [List.range_succ, List.foldl_append, List.foldl_cons, List.foldl_nil, get?_changeColumns, ih]
    by_cases hlast : y = y₀ + m ∧ x₀ ≤ x ∧ x < x₀ + n
    · rw [if_pos hlast, if_neg (by omega), if_pos (by omega)]
    · rw [if_neg hlast]
      congr 1
      simp only [eq_iff_iff]
      omega

/-- Every cell of the area changes once. -/
theorem get?_changeAll (x y : Nat) :
    (g.changeAll a f).get? x y =
      if (a.inter g.area).Contains x y then (g.get? x y).map f else g.get? x y := by
  rw [changeAll, get?_changeRows]
  congr 1
  simp only [Area.Contains, Area.right, Area.bottom, eq_iff_iff]
  omega

theorem strokes_changeAll :
    Strokes (fun x y f' => (a.inter g.area).Contains x y ∧ f' = f) g (g.changeAll a f) := by
  rw [changeAll]
  apply Strokes.foldl
  intro g' i hi
  apply Strokes.foldl
  intro g' j hj
  rw [List.mem_range] at hi hj
  refine Strokes.single ⟨?_, rfl⟩
  simp only [Area.Contains, Area.right, Area.bottom]
  omega

@[simp] theorem area_changeAll : (g.changeAll a f).area = g.area :=
  (g.strokes_changeAll a f).area_eq

theorem strokes_restyle (s : Style) :
    Strokes (fun x y f' => (a.inter g.area).Contains x y ∧ f' = Cell.restyle s) g
      (g.restyle a s) := by
  rw [restyle]
  split
  · exact .nil
  · exact g.strokes_changeAll a _

@[simp] theorem area_restyle (s : Style) : (g.restyle a s).area = g.area :=
  (g.strokes_restyle a s).area_eq

theorem get?_restyle (s : Style) (x y : Nat) :
    (g.restyle a s).get? x y =
      if (a.inter g.area).Contains x y then (g.get? x y).map (Cell.restyle s) else g.get? x y := by
  rw [restyle]
  by_cases hs : s = .plain
  · have hrestyle : Cell.restyle s = id := by
      funext c
      rw [hs, Cell.restyle_plain]
      rfl
    rw [if_pos hs, hrestyle, Option.map_id, id, ite_self]
  · rw [if_neg hs, get?_changeAll]

end Fill

/-! ## Glyphs and lines -/

/-- A stroke puts one of some styles over a cell, whatever it does to the symbol. -/
inductive Inks (styles : List Style) : (Cell → Cell) → Prop
  | write {symbol : List Char} {s : Style} (hs : s ∈ styles) : Inks styles (Cell.write symbol s)
  | append {symbol : List Char} {s : Style} (hs : s ∈ styles) : Inks styles (Cell.append symbol s)

theorem Inks.mono {styles styles' : List Style} {f : Cell → Cell} (h : Inks styles f)
    (hsub : styles ⊆ styles') : Inks styles' f := by
  cases h with
  | write hs => exact .write (hsub hs)
  | append hs => exact .append (hsub hs)

/-- Styles without a ground leave the ground of a cell as it is. -/
theorem Inks.ground_eq {styles : List Style} {f : Cell → Cell} (h : Inks styles f)
    (hstyles : ∀ s ∈ styles, s.ground = none) (c : Cell) : (f c).ground = c.ground := by
  cases h with
  | write hs => simp [Cell.write, Cell.restyle, hstyles _ hs]
  | append hs => simp [Cell.append, Cell.restyle, hstyles _ hs]

/-- What a line may do: it stays on its row, and blanks no cell in its first column. -/
def OnLine (a : Area) (styles : List Style) (x y : Nat) (f : Cell → Cell) : Prop :=
  y = a.y ∧ (Inks styles f ∨ a.x < x ∧ f = fun _ => .blank)

/-- Glyphs are put on one row, from a column on to the right. -/
theorem strokes_putGlyphs (g : Grid) (x y : Nat) (ts : List Glyph) :
    Strokes (fun x' y' f => x ≤ x' ∧ y' = y ∧ Inks (ts.map (·.style)) f) g (putGlyphs y g x ts) := by
  induction ts generalizing g x with
  | nil => exact .nil
  | cons t ts ih =>
    have hrest (g : Grid) {behind : Nat} (hx : x ≤ behind) :
        Strokes (fun x' y' f => x ≤ x' ∧ y' = y ∧ Inks ((t :: ts).map (·.style)) f) g
          (putGlyphs y g behind ts) :=
      (ih g behind).mono fun _ _ _ h =>
        ⟨Nat.le_trans hx h.1, h.2.1, h.2.2.mono (List.subset_cons_self _ _)⟩
    rw [putGlyphs]
    split
    · exact hrest g (Nat.le_refl x)
    · exact (Strokes.single ⟨Nat.le_refl x, rfl, .write List.mem_cons_self⟩).trans
        (hrest _ (Nat.le_add_right _ _))

theorem strokes_putSpan (a : Area) (g : Grid) (x : Nat) (isFirst : Bool) (ts : List Glyph)
    (hx : a.x ≤ x) : Strokes (OnLine a (ts.map (·.style))) g (putSpan a g x isFirst ts) := by
  induction ts generalizing g x isFirst with
  | nil => exact .nil
  | cons t ts ih =>
    rw [putSpan]
    split
    · exact .nil
    dsimp only
    have hglyph : Strokes (OnLine a ((t :: ts).map (·.style))) g
        (if isFirst then g.change x a.y (Cell.write t.symbol t.style)
          else if x = a.x then g.change x a.y (Cell.append t.symbol t.style)
          else if t.width = 0 then g.change (x - 1) a.y (Cell.append t.symbol t.style)
          else g.change x a.y (Cell.write t.symbol t.style)) := by
      split_ifs
      · exact .single ⟨rfl, .inl (.write List.mem_cons_self)⟩
      · exact .single ⟨rfl, .inl (.append List.mem_cons_self)⟩
      · exact .single ⟨rfl, .inl (.append List.mem_cons_self)⟩
      · exact .single ⟨rfl, .inl (.write List.mem_cons_self)⟩
    apply hglyph.trans
    apply Strokes.trans ((strokes_changeAll _ _ _).mono ?_) ((ih _ _ _ (by omega)).mono ?_)
    · rintro x' y f ⟨hplace, rfl⟩
      rw [Area.contains_inter] at hplace
      simp only [Area.Contains, Area.right, Area.bottom] at hplace
      exact ⟨by omega, .inr ⟨by omega, rfl⟩⟩
    · rintro x' y f ⟨hy, hf⟩
      exact ⟨hy, hf.imp_left fun h => h.mono (List.subset_cons_self _ _)⟩

theorem style_of_mem_glyphs {s : Span} {t : Glyph} (h : t ∈ s.glyphs) : t.style = s.style := by
  obtain ⟨cs, -, rfl⟩ := List.mem_map.mp h
  rfl

theorem strokes_putLine (g : Grid) (a : Area) (l : Line) :
    Strokes (OnLine a (l.map (·.style))) g (putLine g a l) := by
  induction l generalizing g a with
  | nil => exact .nil
  | cons s l ih =>
    have hrest (g : Grid) (a' : Area) (hx : a.x ≤ a'.x) (hy : a'.y = a.y) :
        Strokes (OnLine a ((s :: l).map (·.style))) g (putLine g a' l) :=
      (ih g a').mono fun x y f h => ⟨h.1.trans hy,
        h.2.imp (fun h => h.mono (List.subset_cons_self _ _)) fun h => ⟨by omega, h.2⟩⟩
    rw [putLine]
    split_ifs
    · exact hrest g a (Nat.le_refl _) rfl
    · exact .nil
    · have hspan : s.glyphs.map (·.style) ⊆ (s :: l).map (·.style) := by
        intro style hstyle
        obtain ⟨t, ht, rfl⟩ := List.mem_map.mp hstyle
        rw [style_of_mem_glyphs ht]
        exact List.mem_cons_self
      apply Strokes.trans ((strokes_putSpan a g a.x true s.glyphs (Nat.le_refl _)).mono ?_)
      · apply hrest
        · simp only [Area.behind, Area.right]
          omega
        · rfl
      · exact fun x y f h => ⟨h.1, h.2.imp_left fun h => h.mono hspan⟩

/-! ## Frames and contents -/

/-- The place is on the edge of an area. -/
def OnEdge (a : Area) (x y : Nat) : Prop :=
  (a.y ≤ y ∧ y < a.bottom) ∧ (x = a.x ∨ x + 1 = a.right ∨ y = a.y ∨ y + 1 = a.bottom)

theorem strokes_putBorder (g : Grid) {a : Area} (s : Style) (ha : a.isEmpty = false) :
    Strokes (fun x y _ => OnEdge a x y) g (g.putBorder a s) := by
  simp only [Area.isEmpty, Bool.or_eq_false_iff, beq_eq_false_iff_ne] at ha
  have hside (g : Grid) (a' : Area) (f : Cell → Cell)
      (h : ∀ x y, a'.Contains x y → OnEdge a x y) :
      Strokes (fun x y _ => OnEdge a x y) g (g.changeAll a' f) :=
    (g.strokes_changeAll a' f).mono fun x y _ hplace => h x y (Area.contains_inter.mp hplace.1).1
  have hcorner {x y : Nat} (hx : x = a.x ∨ x + 1 = a.right) (hy : y = a.y ∨ y + 1 = a.bottom) :
      OnEdge a x y := by
    simp only [OnEdge, Area.bottom] at hy ⊢
    omega
  have hright : a.right - 1 + 1 = a.right := by
    simp only [Area.right]
    omega
  have hbottom : a.bottom - 1 + 1 = a.bottom := by
    simp only [Area.bottom]
    omega
  rw [putBorder]
  apply Strokes.stroke (Strokes.stroke (Strokes.stroke (Strokes.stroke _
    (hcorner (.inr hright) (.inr hbottom))) (hcorner (.inr hright) (.inl rfl)))
    (hcorner (.inl rfl) (.inr hbottom))) (hcorner (.inl rfl) (.inl rfl))
  apply Strokes.trans (hside _ _ _ ?_) (Strokes.trans (hside _ _ _ ?_)
    (Strokes.trans (hside _ _ _ ?_) (hside _ _ _ ?_)))
  all_goals
    intro x y hplace
    simp only [Area.Contains, OnEdge, Area.right, Area.bottom] at hplace ⊢
    omega

theorem strokes_putFrame (g : Grid) (a : Area) (f : Frame) :
    Strokes (fun x y _ => OnEdge (a.inter g.area) x y) g (g.putFrame a f) := by
  rw [putFrame]
  dsimp only
  generalize a.inter g.area = a
  split
  · exact .nil
  next ha =>
  rw [Bool.not_eq_true] at ha
  have hborder := g.strokes_putBorder f.border ha
  split
  · exact hborder
  · -- the title stays on the upper side
    have htop (x : Nat) : OnEdge a x a.y := by
      simp only [Area.isEmpty, Bool.or_eq_false_iff, beq_eq_false_iff_ne] at ha
      refine ⟨⟨Nat.le_refl _, ?_⟩, .inr (.inr (.inl rfl))⟩
      rw [Area.bottom]
      omega
    apply hborder.trans
    apply Strokes.trans ((strokes_restyle _ _ _).mono ?_) ((strokes_putLine _ _ _).mono ?_)
    · rintro x y _ ⟨hplace, -⟩
      have hrow := (Area.contains_inter.mp hplace).1
      simp only [Area.Contains, Area.bottom] at hrow
      obtain rfl : y = a.y := by omega
      exact htop x
    · rintro x y _ ⟨rfl, -⟩
      exact htop x

theorem strokes_putLines (g : Grid) (a : Area) (alignment : Alignment)
    (lines : List (List Glyph)) :
    Strokes (fun _ y f => (a.y ≤ y ∧ y < a.bottom) ∧ Inks (lines.flatten.map (·.style)) f) g
      (g.putLines a alignment lines) := by
  rw [putLines]
  apply Strokes.foldl
  rintro g ⟨line, i⟩ hline
  obtain ⟨-, hi, hmem⟩ := List.mem_zipIdx hline
  rw [List.length_take] at hi
  apply (strokes_putGlyphs _ _ _ _).mono
  rintro _ y f ⟨-, rfl, hf⟩
  refine ⟨by simp only [Area.bottom]; omega, hf.mono ?_⟩
  have hline : line ∈ lines := List.mem_of_mem_take (hmem ▸ List.getElem_mem _)
  exact List.map_subset _ fun t ht => List.mem_flatten.mpr ⟨line, hline, ht⟩

theorem strokes_row (g : Grid) (a : Area) (row : Row) :
    Strokes (fun _ y _ => y = a.y) g
      ((g.restyle { a with height := 1 } row.style).putLine { a with height := 1 } row.line) := by
  apply Strokes.trans ((strokes_restyle _ _ _).mono ?_) ((strokes_putLine _ _ _).mono ?_)
  · rintro x y _ ⟨hplace, -⟩
    have hrow := (Area.contains_inter.mp hplace).1
    simp only [Area.Contains, Area.bottom] at hrow
    omega
  · exact fun _ _ _ h => h.1

theorem strokes_putRows (g : Grid) (a : Area) (rows : List Row) :
    Strokes (fun _ y _ => a.y ≤ y ∧ y < a.bottom) g (g.putRows a rows) := by
  rw [putRows]
  apply Strokes.foldl
  rintro g ⟨row, i⟩ hrow
  obtain ⟨-, hi, -⟩ := List.mem_zipIdx hrow
  rw [List.length_take] at hi
  apply (g.strokes_row (a.row i) row).mono
  rintro _ y _ rfl
  simp only [Area.row, Area.bottom]
  omega

theorem strokes_putContent (g : Grid) (a : Area) (c : Content) :
    Strokes (fun _ y _ => a.y ≤ y ∧ y < a.bottom) g (g.putContent a c) := by
  cases c with
  | lines lines alignment skip => exact (g.strokes_putLines a _ _).mono fun _ _ _ h => h.1
  | folded lines => exact (g.strokes_putLines a _ _).mono fun _ _ _ h => h.1
  | rows rows => exact g.strokes_putRows a rows
  | nothing => exact .nil

end Grid

/-! ## Panels -/

namespace Panel

open Grid (Strokes)

/-- The panel before its content is painted. -/
def framed (p : Panel) (g : Grid) : Grid :=
  match p.frame with
  | some f => (g.restyle p.area p.style).putFrame p.area f
  | none => g.restyle p.area p.style

/-- A panel without its content stays on its own rows. -/
theorem strokes_framed (p : Panel) (g : Grid) :
    Strokes (fun _ y _ => p.area.y ≤ y ∧ y < p.area.bottom) g (p.framed g) := by
  have hrestyle : Strokes (fun _ y _ => p.area.y ≤ y ∧ y < p.area.bottom) g
      (g.restyle p.area p.style) := by
    apply (g.strokes_restyle p.area p.style).mono
    rintro x y _ ⟨hplace, -⟩
    exact (Area.contains_inter.mp hplace).1.2.2
  rw [framed]
  split
  · apply hrestyle.trans
    apply (Grid.strokes_putFrame _ _ _).mono
    rintro x y _ ⟨hrow, -⟩
    simp only [Area.inter, Area.bottom] at hrow ⊢
    omega
  · exact hrestyle

theorem paint_eq (p : Panel) (g : Grid) :
    p.paint g =
      if (p.inside.inter g.area).isEmpty then p.framed g
      else (p.framed g).putContent (p.inside.inter g.area) p.content := by
  rw [← (p.strokes_framed g).area_eq]
  rfl

/-- A panel stays on its own rows. -/
theorem strokes_paint (p : Panel) (g : Grid) :
    Strokes (fun _ y _ => p.area.y ≤ y ∧ y < p.area.bottom) g (p.paint g) := by
  have hinside : p.area.y ≤ p.inside.y ∧ p.inside.bottom ≤ p.area.bottom := by
    rw [inside]
    split_ifs
    · simp only [Area.inner, Area.bottom]
      omega
    · exact ⟨Nat.le_refl _, Nat.le_refl _⟩
  rw [paint_eq]
  split_ifs
  · exact p.strokes_framed g
  · apply (p.strokes_framed g).trans
    apply (Grid.strokes_putContent _ _ _).mono
    rintro x y _ hrow
    simp only [Area.inter, Area.bottom] at hrow hinside ⊢
    omega

end Panel

end FeedExplorer.Screen
