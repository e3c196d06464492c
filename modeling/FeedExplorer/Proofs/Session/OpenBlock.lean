import FeedExplorer.Proofs.Session.Highlight
import FeedExplorer.Proofs.View.BlockPage
import Mathlib.Data.List.Induction

/-!
# The open block

What operations do to the page of a block. Main statement: whatever happens, the block on the page
is the one that was highlighted when it was opened, the selected transaction is one of its own, and
that is the one that stands out on the screen.
-/

namespace FeedExplorer.Session

open Chain (Block)
open Screen (Row)

/-- Everything that can happen to a session. -/
inductive Operation where
  | act (a : Act)
  /-- The search line becomes another, and the feed is not asked for it yet. -/
  | editSearch (line : LineInput)
  | editAddress (line : LineInput)
  | submit (disk : Disk) (home : Disk.Place)
  | noteSave (kept : Except Trouble Unit)
  | say (text : String)
  | clearStatus
  | blockMinted (b : Option Block)
  | quit

/-- An address that is refused leaves the session alone. -/
def operate (s : Session) : Operation → Session
  | .act a => s.act a
  | .editSearch line => { s with search := line }
  | .editAddress line => { s with address := line }
  | .submit disk home =>
    match s.submit disk home with
    | .ok (s', _) => s'
    | .error _ => s
  | .noteSave kept => s.noteSave kept
  | .say text => s.say text
  | .clearStatus => s.clearStatus
  | .blockMinted b => s.blockMinted b
  | .quit => { s with quitting := true }

/-- The session after some operations in turn. -/
def operateAll (s : Session) (os : List Operation) : Session :=
  os.foldl operate s

theorem operateAll_concat (s : Session) (os : List Operation) (o : Operation) :
    s.operateAll (os ++ [o]) = (s.operateAll os).operate o :=
  List.foldl_concat ..

/-- The block that is open. -/
def opened? (s : Session) : Option Block :=
  match s.page with
  | .feed => none
  | .block b _ => some b

theorem opened?_eq_some {s : Session} {b : Block} :
    s.opened? = some b ↔ ∃ i, s.page = .block b i := by
  unfold opened?
  cases s.page <;> simp

/-! ## One operation -/

section Step

variable {s s' : Session} {o : Operation}

/-- Everything that an operation can do to the page. -/
inductive Turned (s s' : Session) (o : Operation) : Prop
  | stays (hpage : s'.page = s.page)
  | closes (hpage : s'.page = .feed)
  | opens (b : Block) (hopen : o = .act .openBlock) (hshown : s.visible[s.highlighted]? = some b)
      (hpage : s'.page = .block b 0)
  | selects (b : Block) (i j : Nat) (hbefore : s.page = .block b i) (hpage : s'.page = .block b j)
      (hj : j ≤ i ∨ j < b.transactions.length)

theorem page_submit {disk disk' : Disk} {home : Disk.Place}
    (h : s.submit disk home = .ok (s', disk')) : s'.page = s.page ∧ s'.feed = some .initial := by
  obtain ⟨kept, -, rfl⟩ := session_of_submit h
  cases kept <;> exact ⟨rfl, rfl⟩

theorem turned_openSelected : Turned s s.openSelected.1 (.act .openBlock) := by
  unfold openSelected
  split
  · next b hshown => exact .opens b rfl hshown rfl
  · exact .stays rfl

theorem turned_selectPrevious (o : Operation) : Turned s s.selectPrevious o := by
  unfold selectPrevious
  split
  · exact .stays rfl
  · next b i hpage => exact .selects b i (i - 1) hpage rfl (.inl (Nat.sub_le i 1))

theorem turned_selectNext (o : Operation) : Turned s s.selectNext o := by
  unfold selectNext
  split
  · split <;> exact .stays rfl
  · next b i hpage =>
    split
    · next hlt => exact .selects b i (i + 1) hpage rfl (.inr hlt)
    · exact .stays rfl

theorem turned_operate (s : Session) (o : Operation) : Turned s (s.operate o) o := by
  cases o with
  | act a =>
    cases a with
    | feed e => exact .stays rfl
    | search line => exact .stays rfl
    | openBlock => exact turned_openSelected
    | back => exact .closes rfl
    | up => exact turned_selectPrevious _
    | down => exact turned_selectNext _
  | submit disk home =>
    rw [operate]
    cases hsubmit : s.submit disk home with
    | ok r => exact .stays (page_submit hsubmit).1
    | error text => exact .stays rfl
  | noteSave kept => cases kept <;> exact .stays rfl
  | _ => exact .stays rfl

/-- A feed is never taken away. -/
theorem isSome_feed_operate (h : s.feed.isSome = true) (o : Operation) :
    (s.operate o).feed.isSome = true := by
  cases o with
  | act a =>
    cases a with
    | feed e | search line => exact Option.isSome_map.trans h
    | back => exact h
    | openBlock => exact (congrArg (·.1.isSome) s.sought_openSelected).trans h
    | up => exact (congrArg (·.1.isSome) s.sought_selectPrevious).trans h
    | down => exact (congrArg (·.1.isSome) s.sought_selectNext).trans h
  | submit disk home =>
    rw [operate]
    cases hsubmit : s.submit disk home with
    | ok r => exact congrArg Option.isSome (page_submit hsubmit).2
    | error text => exact h
  | noteSave kept => cases kept <;> exact h
  | _ => exact h

/-- Without a feed no block is listed. -/
theorem isSome_feed_of_visible {i : Nat} {b : Block} (h : s.visible[i]? = some b) :
    s.feed.isSome = true := by
  cases hfeed : s.feed with
  | some m => rfl
  | none =>
    have hempty : s.visible = [] := by
      rw [visible, feedState, hfeed]
      rfl
    rw [hempty] at h
    cases h

end Step

/-! ## Runs -/

/-- While a block is open there is a feed, and the selected transaction is one of the block, or in
first place while the block has none. -/
def Sound (s : Session) : Prop :=
  ∀ b i, s.page = .block b i →
    s.feed.isSome = true ∧ (i < b.transactions.length ∨ b.transactions = [] ∧ i = 0)

theorem Sound.operate {s : Session} (h : s.Sound) (o : Operation) : (s.operate o).Sound := by
  intro b i hpage'
  cases s.turned_operate o with
  | stays hpage =>
    obtain ⟨hfeed, hi⟩ := h b i (hpage ▸ hpage')
    exact ⟨isSome_feed_operate hfeed o, hi⟩
  | closes hpage =>
    rw [hpage] at hpage'
    cases hpage'
  | opens c _ hshown hpage =>
    obtain ⟨rfl, rfl⟩ := Page.block.inj (hpage.symm.trans hpage')
    refine ⟨isSome_feed_operate (isSome_feed_of_visible hshown) o, ?_⟩
    rcases c.transactions.eq_nil_or_concat with hnil | ⟨ts, t, hts⟩
    · exact .inr ⟨hnil, rfl⟩
    · exact .inl (by simp [hts])
  | selects c k j hbefore hpage hj =>
    obtain ⟨rfl, rfl⟩ := Page.block.inj (hpage.symm.trans hpage')
    obtain ⟨hfeed, hk⟩ := h c k hbefore
    refine ⟨isSome_feed_operate hfeed o, ?_⟩
    rcases hk with hk | ⟨hnil, rfl⟩
    · exact .inl (by omega)
    · refine .inr ⟨hnil, ?_⟩
      rw [hnil, List.length_nil] at hj
      omega

theorem sound_operateAll {s : Session} (h : s.Sound) (os : List Operation) :
    (s.operateAll os).Sound := by
  induction os generalizing s with
  | nil => exact h
  | cons o os ih => exact ih (h.operate o)

/-- A block that is open has been highlighted when it was opened, and has been on the page since. -/
theorem exists_opening {s : Session} (hclosed : s.opened? = none) {os : List Operation} {b : Block}
    (h : (s.operateAll os).opened? = some b) :
    ∃ before after, os = before ++ .act .openBlock :: after ∧
      (s.operateAll before).visible[(s.operateAll before).highlighted]? = some b ∧
      ∀ p, p <+: after → (s.operateAll (before ++ .act .openBlock :: p)).opened? = some b := by
  induction os using List.reverseRecOn with
  | nil =>
    rw [show s.operateAll [] = s from rfl, hclosed] at h
    cases h
  | append_singleton os o ih =>
    -- a block that has been open before stays open until the end
    have hlonger (hbefore : (s.operateAll os).opened? = some b) :
        ∃ before after, os ++ [o] = before ++ .act .openBlock :: after ∧
          (s.operateAll before).visible[(s.operateAll before).highlighted]? = some b ∧
          ∀ p, p <+: after → (s.operateAll (before ++ .act .openBlock :: p)).opened? = some b := by
      obtain ⟨before, after, rfl, hshown, hsince⟩ := ih hbefore
      rw [List.append_assoc, List.cons_append] at h ⊢
      refine ⟨before, after ++ [o], rfl, hshown, fun p hp => ?_⟩
      rcases List.prefix_concat_iff.mp hp with rfl | hp
      · exact h
      · exact hsince p hp
    obtain ⟨i, hi⟩ := opened?_eq_some.mp h
    rw [operateAll_concat] at hi
    cases (s.operateAll os).turned_operate o with
    | stays hpage => exact hlonger (opened?_eq_some.mpr ⟨i, hpage ▸ hi⟩)
    | closes hpage =>
      rw [hpage] at hi
      cases hi
    | opens c hopen hshown hpage =>
      obtain ⟨rfl, -⟩ := Page.block.inj (hpage.symm.trans hi)
      refine ⟨os, [], by rw [hopen], hshown, fun p hp => ?_⟩
      rw [List.prefix_nil.mp hp, ← hopen]
      exact h
    | selects c k j hbefore hpage _ =>
      obtain ⟨rfl, -⟩ := Page.block.inj (hpage.symm.trans hi)
      exact hlonger (opened?_eq_some.mpr ⟨k, hbefore⟩)

theorem sound_build (config : Config) (feed : Option Feed.Machine) : (build config feed).Sound := by
  intro b i hpage
  cases hpage

/-- The arrow keys move the selection by one among the transactions of the open block, and nothing
else. -/
theorem arrows_select_transaction {s : Session} {b : Block} {i : Nat} (hpage : s.page = .block b i)
    (hi : i < b.transactions.length ∨ b.transactions = [] ∧ i = 0) :
    s.selectNext = { s with page := .block b (min (i + 1) (b.transactions.length - 1)) } ∧
      s.selectPrevious = { s with page := .block b (i - 1) } := by
  have hstay : s = { s with page := .block b i } := by
    rw [← hpage]
  refine ⟨?_, by rw [selectPrevious, hpage]⟩
  rw [selectNext, hpage]
  dsimp only
  split_ifs with hlt
  · rw [min_eq_left (by omega)]
  · have hlast : min (i + 1) (b.transactions.length - 1) = i := by
      rcases hi with hi | ⟨hnil, rfl⟩
      · omega
      · rw [hnil]
        rfl
    rw [hlast]
    exact hstay

/-- Whatever has happened to a session that shows a block. The block is the one that was
highlighted when it was opened, and has been on the page since. Its selected transaction is one of
its own, or in first place while it has none; the arrow keys move it by one as far as there are
transactions, and nothing else. On every screen that leaves the list a row below its header, a list
that is not empty is shown as a run of the transactions, and exactly one row stands out, the one of
the selected transaction. -/
theorem open_block_stays (config : Config) (feed : Option Feed.Machine) (os : List Operation)
    (b : Block) (i : Nat) :
    let start := build config feed
    let s := start.operateAll os
    s.page = .block b i →
      (∃ before after, os = before ++ .act .openBlock :: after ∧
        (start.operateAll before).visible[(start.operateAll before).highlighted]? = some b ∧
        ∀ p, p <+: after → (start.operateAll (before ++ .act .openBlock :: p)).opened? = some b) ∧
      (i < b.transactions.length ∨ b.transactions = [] ∧ i = 0) ∧
      s.selectNext = { s with page := .block b (min (i + 1) (b.transactions.length - 1)) } ∧
      s.selectPrevious = { s with page := .block b (i - 1) } ∧
      ∀ now w h,
        let a := (View.BlockPage.strip (View.screenOf w h) 1).inner
        let g := (View.paint now s w h).1
        0 < a.width → 1 < a.height → b.transactions ≠ [] → ∃ start row,
          g.Shows a (View.BlockPage.headerRow ::
            ((b.transactions.drop start).take (a.height - 1)).mapIdx fun j t =>
              { style := View.rowStyle (j == row), line := View.transactionLine (start + j) t }) ∧
          start + row = i ∧ row + 1 < a.height ∧ ∀ j < a.height, g.Lit a j ↔ j = row + 1 := by
  intro start s hpage
  obtain ⟨hfeed, hi⟩ := sound_operateAll (sound_build config feed) os b i hpage
  obtain ⟨hnext, hprevious⟩ := arrows_select_transaction hpage hi
  refine ⟨exists_opening rfl (opened?_eq_some.mpr ⟨i, hpage⟩), hi, hnext, hprevious, ?_⟩
  intro now w h a g hwidth hheight hne
  have hselected : i < b.transactions.length := hi.resolve_right fun hnone => hne hnone.1
  exact View.BlockPage.exists_run_transactions now hfeed hpage hselected hwidth hheight

/-- A block of five transactions on a screen with place for three; a mint comes in between. -/
theorem open_block_stays_scrolled :
    let b : Block := { (default : Block) with hash := "a", transactions := .replicate 5 default }
    let os : List Operation :=
      [.act (.feed .request), .act (.feed (.begin 0)),
        .act (.feed (.answer 0 (.ok ⟨[b], none, none⟩))), .act .openBlock, .act .down,
        .act (.feed (.minted (.ok default))), .act .down, .act .down]
    let s := (build .initial (some .initial)).operateAll os
    let a := (View.BlockPage.strip (View.screenOf 40 15) 1).inner
    s.page = .block b 3 ∧ s.visible.length = 2 ∧ a.height = 4 ∧
      s.selectNext = { s with page := .block b 4 } ∧
      ∃ start row, start + row = 3 ∧ row < 3 ∧
        ∀ j < 4, (View.paint 0 s 40 15).1.Lit a j ↔ j = row + 1 := by
  intro b os s a
  have hpage : s.page = .block b 3 := by decide +kernel
  have hheight : a.height = 4 := by decide +kernel
  obtain ⟨-, -, hnext, -, hdrawn⟩ := open_block_stays .initial (some .initial) os b 3 hpage
  obtain ⟨start, row, -, hselected, hrow, hlit⟩ :=
    hdrawn 0 40 15 (by decide +kernel) (by decide +kernel) (List.cons_ne_nil _ _)
  refine ⟨hpage, by decide +kernel, hheight, hnext, start, row, hselected, ?_, ?_⟩
  · change row + 1 < a.height at hrow
    omega
  · rwa [← hheight]

end FeedExplorer.Session
