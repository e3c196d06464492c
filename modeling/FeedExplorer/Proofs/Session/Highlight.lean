import FeedExplorer.Proofs.Session.Search
import Mathlib.Logic.Function.Iterate

/-!
# The highlighted block

How the arrow keys move the highlight on the page of a feed. Main statement: down always moves it by
one row, as far as there are rows; up does so unless the list has become shorter than the selection,
and then nothing moves until up has been pressed for every row that is missing.
-/

namespace FeedExplorer.Session

open Chain (Block)

/-- What can happen to a session with a feed. -/
inductive Act where
  /-- The feed is refreshed, a block is minted, and the like. -/
  | feed (e : Feed.Event)
  /-- The search line becomes another. -/
  | search (line : LineInput)
  | openBlock
  | back
  | up
  | down

def act (s : Session) : Act → Session
  | .feed e => s.tell e
  | .search line => { s with search := line }.syncSearch
  | .openBlock => s.openSelected.1
  | .back => s.goBack
  | .up => s.selectPrevious
  | .down => s.selectNext

/-- The session after some things have happened in turn. -/
def perform (s : Session) (acts : List Act) : Session :=
  acts.foldl act s

theorem visible_of_sought {s s' : Session} (h : s'.sought = s.sought) : s'.visible = s.visible := by
  have hfeed : s'.feed = s.feed := congrArg Prod.fst h
  rw [visible, feedState, hfeed]
  rfl

section Arrows

variable (s : Session)

@[simp] theorem visible_selectPrevious : s.selectPrevious.visible = s.visible :=
  visible_of_sought s.sought_selectPrevious

@[simp] theorem visible_selectNext : s.selectNext.visible = s.visible :=
  visible_of_sought s.sought_selectNext

@[simp] theorem visible_openSelected : s.openSelected.1.visible = s.visible :=
  visible_of_sought s.sought_openSelected

@[simp] theorem selected_openSelected : s.openSelected.1.selected = s.selected := by
  unfold openSelected
  split <;> rfl

variable {s}

theorem selected_selectPrevious (h : s.page = .feed) :
    s.selectPrevious.selected = s.selected - 1 := by
  rw [selectPrevious, h]

theorem selected_selectPrevious_of_ne (h : s.page ≠ .feed) :
    s.selectPrevious.selected = s.selected := by
  unfold selectPrevious
  split
  · contradiction
  · rfl

theorem page_selectPrevious (h : s.page = .feed) : s.selectPrevious.page = .feed := by
  rw [selectPrevious, h]

theorem selected_selectNext (h : s.page = .feed) :
    s.selectNext.selected =
      if s.selected + 1 < s.visible.length then s.selected + 1 else s.selected := by
  rw [selectNext, h]
  dsimp only
  split <;> rfl

theorem selected_selectNext_of_ne (h : s.page ≠ .feed) :
    s.selectNext.selected = s.selected := by
  unfold selectNext
  split
  · contradiction
  · split <;> rfl

theorem selected_iterate_selectPrevious (h : s.page = .feed) (k : Nat) :
    (selectPrevious^[k] s).selected = s.selected - k ∧
      (selectPrevious^[k] s).visible = s.visible := by
  induction k generalizing s with
  | zero => exact ⟨rfl, rfl⟩
  | succ k ih =>
    obtain ⟨hselected, hvisible⟩ := ih (page_selectPrevious h)
    rw [Function.iterate_succ_apply, hselected, hvisible, selected_selectPrevious h,
      visible_selectPrevious]
    exact ⟨by omega, rfl⟩

/-- The key down moves the highlight to the next row, if there is one. -/
theorem highlighted_selectNext (h : s.page = .feed) :
    s.selectNext.highlighted = min (s.highlighted + 1) (s.visible.length - 1) := by
  rw [highlighted, visible_selectNext, selected_selectNext h, highlighted]
  split <;> omega

/-- The key up moves the selection, be it on the list or behind its end. -/
theorem highlighted_iterate_selectPrevious (h : s.page = .feed) (k : Nat) :
    (selectPrevious^[k] s).highlighted = min (s.selected - k) (s.visible.length - 1) := by
  obtain ⟨hselected, hvisible⟩ := selected_iterate_selectPrevious h k
  rw [highlighted, hselected, hvisible]

theorem highlighted_selectPrevious_iff (h : s.page = .feed) (hvisible : s.visible ≠ []) :
    s.selectPrevious.highlighted = s.highlighted - 1 ↔
      s.selected < s.visible.length ∨ s.visible.length = 1 := by
  have hpos := List.length_pos_iff.mpr hvisible
  rw [highlighted, selected_selectPrevious h, visible_selectPrevious, highlighted]
  omega

end Arrows

/-! ## Selections on the list -/

/-- The selection is a row of the list, or the first row while the list is empty. -/
def OnList (s : Session) : Prop :=
  s.selected = 0 ∨ s.selected < s.visible.length

/-- Whatever happens to the feed, no fewer blocks are listed than before. -/
def NeverShrinks (s : Session) : List Act → Prop
  | [] => True
  | a :: acts =>
    (∀ e, a = .feed e → s.visible.length ≤ (s.tell e).visible.length) ∧
      (s.act a).NeverShrinks acts

variable {s : Session}

theorem OnList.of_eq {s' : Session} (h : s.OnList) (hselected : s'.selected = s.selected)
    (hvisible : s'.visible = s.visible) : s'.OnList := by
  unfold OnList
  rw [hselected, hvisible]
  exact h

theorem OnList.act (h : s.OnList) {a : Act}
    (hfeed : ∀ e, a = .feed e → s.visible.length ≤ (s.tell e).visible.length) :
    (s.act a).OnList := by
  cases a with
  | feed e => exact h.imp_right fun hlt => hlt.trans_le (hfeed e rfl)
  | search line => exact .inl rfl
  | openBlock => exact h.of_eq s.selected_openSelected s.visible_openSelected
  | back => exact h.of_eq rfl rfl
  | up =>
    by_cases hpage : s.page = .feed
    · unfold OnList at h ⊢
      rw [Session.act, visible_selectPrevious, selected_selectPrevious hpage]
      omega
    · exact h.of_eq (selected_selectPrevious_of_ne hpage) s.visible_selectPrevious
  | down =>
    by_cases hpage : s.page = .feed
    · unfold OnList at h ⊢
      rw [Session.act, visible_selectNext, selected_selectNext hpage]
      split <;> omega
    · exact h.of_eq (selected_selectNext_of_ne hpage) s.visible_selectNext

theorem OnList.perform (h : s.OnList) {acts : List Act} (hacts : s.NeverShrinks acts) :
    (s.perform acts).OnList := by
  induction acts generalizing s with
  | nil => exact h
  | cons a acts ih => exact ih (h.act hacts.1) hacts.2

/-- Whatever has happened to a session: on the page of its feed, with blocks on the list, the key
down moves the highlight by one row as far as there are rows. The key up does so just when the
selection is on the list, which it is as long as the list does not become shorter, or there is only
one row; and from behind the end of the list it goes up unseen until it is back on the list. -/
theorem arrows_move_highlight_iff (config : Config) (feed : Option Feed.Machine)
    (acts : List Act) :
    let s := (build config feed).perform acts
    let n := s.visible.length
    s.page = .feed → 0 < n →
      s.selectNext.highlighted = min (s.highlighted + 1) (n - 1) ∧
        (s.selectPrevious.highlighted = s.highlighted - 1 ↔ s.selected < n ∨ n = 1) ∧
        (∀ k, (selectPrevious^[k] s).highlighted = min (s.selected - k) (n - 1)) ∧
        ((build config feed).NeverShrinks acts → s.selected < n) := by
  intro s n hpage hpos
  refine ⟨highlighted_selectNext hpage,
    highlighted_selectPrevious_iff hpage (List.length_pos_iff.mp hpos),
    highlighted_iterate_selectPrevious hpage, fun hacts => ?_⟩
  have hinitial : (build config feed).OnList := .inl rfl
  rcases hinitial.perform hacts with hzero | hlt
  · exact hzero ▸ hpos
  · exact hlt

/-- A refresh in the middle brings one more block. -/
theorem arrows_move_highlight_growing :
    let shown (hashes : List String) : Chain.Snapshot :=
      ⟨hashes.map fun hash => { (default : Block) with hash }, none, none⟩
    let acts : List Act :=
      [.feed .request, .feed (.begin 0), .feed (.answer 0 (.ok (shown ["a", "b"]))), .down,
        .feed .request, .feed (.begin 1), .feed (.answer 1 (.ok (shown ["c", "a", "b"]))), .down]
    let s := (build .initial (some .initial)).perform acts
    s.page = .feed ∧ 0 < s.visible.length ∧ (build .initial (some .initial)).NeverShrinks acts ∧
      s.highlighted = 2 ∧ s.selectPrevious.highlighted = 1 := by
  intro shown acts s
  have hpage : s.page = .feed := by decide +kernel
  have hpos : 0 < s.visible.length := by decide +kernel
  have hacts : (build .initial (some .initial)).NeverShrinks acts := by
    simp only [acts, NeverShrinks, Act.feed.injEq, forall_eq', reduceCtorEq, false_implies,
      implies_true, true_and, and_true]
    decide +kernel
  have hhighlighted : s.highlighted = 2 := by decide +kernel
  obtain ⟨-, hup, -, hlisted⟩ :=
    arrows_move_highlight_iff .initial (some .initial) acts hpage hpos
  refine ⟨hpage, hpos, hacts, hhighlighted, ?_⟩
  rw [hup.mpr (.inl (hlisted hacts)), hhighlighted]

/-- The list has become shorter than the selection, and the key up does not move the highlight. -/
theorem up_leaves_highlight :
    let shown (hashes : List String) : Chain.Snapshot :=
      ⟨hashes.map fun hash => { (default : Block) with hash }, none, none⟩
    let acts : List Act :=
      [.feed .request, .feed (.begin 0), .feed (.answer 0 (.ok (shown ["a", "b", "c", "d"]))),
        .down, .down, .down, .feed .request, .feed (.begin 1),
        .feed (.answer 1 (.ok (shown ["a", "b"])))]
    let s := (build .initial (some .initial)).perform acts
    s.page = .feed ∧ s.visible.length = 2 ∧ s.highlighted = 1 ∧
      s.selectPrevious.highlighted = 1 := by
  decide

end FeedExplorer.Session
