import FeedExplorer.Proofs.Feed.Step
import FeedExplorer.Proofs.Session.Setup
import FeedExplorer.Proofs.View.FeedPage

/-!
# Searching

The text that blocks are searched for stands in the search line and in the feed. Main statement:
the two never differ, so the blocks that are painted are those that the text on the screen picks.
-/

namespace FeedExplorer.Session

open Chain (Query)

/-- The feed is asked for what stands in the search line. Before there is a feed nothing stands
there, and no block has been opened. -/
structure InStep (s : Session) : Prop where
  blank : s.feed = none → s.search = .empty ∧ s.page = .feed
  query : ∀ m, s.feed = some m → m.state.query = ⟨s.search.text⟩

/-- The feed of a session and what it is searched for. -/
def sought (s : Session) : Option Feed.Machine × LineInput :=
  (s.feed, s.search)

section Sought

variable (s : Session)

@[simp] theorem sought_goBack : s.goBack.sought = s.sought := rfl

@[simp] theorem sought_selectPrevious : s.selectPrevious.sought = s.sought := by
  unfold selectPrevious
  split <;> rfl

@[simp] theorem sought_selectNext : s.selectNext.sought = s.sought := by
  unfold selectNext
  split <;> split <;> rfl

@[simp] theorem sought_openSelected : s.openSelected.1.sought = s.sought := by
  unfold openSelected
  split <;> rfl

@[simp] theorem sought_pressOnBlock (k : Key) : (s.pressOnBlock k).sought = s.sought := by
  unfold pressOnBlock
  split_ifs <;> simp

end Sought

namespace InStep

variable {s s' : Session} {m : Feed.Machine}

theorem of_eq (h : s.InStep) (hsought : s'.sought = s.sought) (hpage : s'.page = s.page) :
    s'.InStep := by
  obtain ⟨hfeed, hsearch⟩ := Prod.mk.inj hsought
  constructor
  · rw [hfeed, hsearch, hpage]
    exact h.blank
  · rw [hfeed, hsearch]
    exact h.query

/-- With a feed it does not matter which page is open. -/
theorem of_feed (h : s.InStep) (hm : s.feed = some m) (hsought : s'.sought = s.sought) :
    s'.InStep := by
  obtain ⟨hfeed, hsearch⟩ := Prod.mk.inj hsought
  constructor
  · intro hnone
    rw [hfeed, hm] at hnone
    cases hnone
  · rw [hfeed, hsearch]
    exact h.query

theorem tell (h : s.InStep) {e : Feed.Event} (he : ∀ q, e ≠ .search q) : (s.tell e).InStep := by
  constructor
  · intro hnone
    exact h.blank (Option.map_eq_none_iff.mp hnone)
  · intro m' hm'
    obtain ⟨m, hm, rfl⟩ := Option.map_eq_some_iff.mp hm'
    rw [Feed.Machine.query_step m he]
    exact h.query m hm

/-- Whatever the query has been, it is the text of the search line afterwards. -/
theorem syncSearch (hm : s.feed = some m) : s.syncSearch.InStep := by
  constructor
  · intro hnone
    rw [Session.syncSearch, Session.tell, hm] at hnone
    cases hnone
  · intro m' hm'
    obtain ⟨m, -, rfl⟩ := Option.map_eq_some_iff.mp hm'
    rfl

theorem typeSearch (h : s.InStep) (hm : s.feed = some m) (k : Key) : (s.typeSearch k).InStep := by
  unfold Session.typeSearch
  split
  · exact syncSearch hm
  · exact h

theorem typeAddress (h : s.InStep) (k : Key) : (s.typeAddress k).InStep := by
  unfold Session.typeAddress
  split
  · exact h.of_eq rfl rfl
  · exact h

theorem receive (h : s.InStep) (message : Message) : (Session.receive s message).InStep := by
  cases message <;> exact h.of_eq rfl rfl

/-- A new feed is asked for nothing, and nothing stands in the search line yet. -/
theorem submit (h : s.InStep) (hnone : s.feed = none) {disk disk' : Disk} {home : Disk.Place}
    (hsubmit : s.submit disk home = .ok (s', disk')) : s'.InStep := by
  obtain ⟨kept, -, rfl⟩ := session_of_submit hsubmit
  have hblank := (h.blank hnone).1
  refine of_eq (s := { s with
    config := s.config.withRpcUrl (Text.trim s.address.text), feed := some .initial
    url := some (Text.trim s.address.text), address := .empty }) ⟨nofun, ?_⟩ ?_ ?_
  · rintro m ⟨⟩
    rw [hblank]
    rfl
  · cases kept <;> rfl
  · cases kept <;> rfl

/-- The blocks that are listed are those that the search line picks. -/
theorem visible_eq (h : s.InStep) (hm : s.feed = some m) :
    s.visible = Query.filter ⟨s.search.text⟩ m.state.blocks := by
  rw [visible, feedState, hm, ← h.query m hm]
  rfl

end InStep

theorem inStep_start (config : Config) : (Session.start config).InStep := by
  refine ⟨fun _ => ⟨rfl, rfl⟩, ?_⟩
  intro m hm
  obtain ⟨client, -, rfl⟩ := Option.map_eq_some_iff.mp hm
  rfl

namespace Loop

variable {l : Loop}

theorem inStep_pressOnSetup (h : l.session.InStep) (hnone : l.session.feed = none) (k : Key) :
    (l.pressOnSetup k).session.InStep := by
  unfold pressOnSetup
  split
  · split
    · next hsubmit => exact (h.submit hnone hsubmit).tell (by simp)
    · exact h.of_eq rfl rfl
  · exact h
  · exact h.typeAddress _

theorem inStep_pressOnFeed (h : l.session.InStep) {m : Feed.Machine}
    (hm : l.session.feed = some m) (k : Key) : (l.pressOnFeed m k).session.InStep := by
  unfold pressOnFeed
  split
  · exact h.of_eq rfl rfl
  · have hsaid : (l.session.say Session.refreshing).InStep := h.of_eq rfl rfl
    exact hsaid.tell (by simp)
  · exact h.of_feed hm (sought_selectPrevious _)
  · exact h.of_feed hm (sought_selectNext _)
  · exact h.of_feed hm (sought_openSelected _)
  · exact h
  · exact h.typeSearch hm _

theorem inStep_press (h : l.session.InStep) (k : Key) : (l.press k).session.InStep := by
  unfold press
  generalize hquit :
    (if k.quits then l.withSession { l.session with quitting := true } else l) = l'
  have h' : l'.session.InStep := by
    subst hquit
    split_ifs
    · exact h.of_eq rfl rfl
    · exact h
  dsimp only
  split
  · next hnone => exact inStep_pressOnSetup h' hnone k
  · next m hm =>
    split
    · exact inStep_pressOnFeed h' hm k
    · exact h'.of_feed hm (sought_pressOnBlock _ _)

theorem inStep_step (h : l.session.InStep) (e : Event) : (l.step e).session.InStep := by
  cases e with
  | press k =>
    rw [step]
    split_ifs
    · exact h
    · exact inStep_press h k
  | tick => exact h.tell (by simp)
  | «begin» id => exact h.tell (by simp)
  | answer id result =>
    have hanswered : (l.session.tell (.answer id result)).InStep := h.tell (by simp)
    rw [step, answer]
    split_ifs <;> exact hanswered
  | minted result =>
    rw [step, minted]
    split_ifs
    · exact h
    · exact h.tell (by simp)
  | handle =>
    rw [step]
    split_ifs
    · exact h
    · exact List.foldlRecOn l.inbox receive h fun _ hs message _ => hs.receive message

theorem inStep_run (h : l.session.InStep) (es : List Event) : (l.run es).session.InStep := by
  induction es generalizing l with
  | nil => exact h
  | cons e es ih => exact ih (inStep_step h e)

theorem inStep_start (config : Config) (disk : Disk) (home : Disk.Place) :
    (Loop.start (.start config) disk home).session.InStep :=
  (Session.inStep_start config).tell (by simp)

end Loop

/-- After every run of the loop: without a feed the search line is empty and no block is open; a
feed that is there stays; and the query of the feed is the text of the search line, so that the
list on the page is made of those of its blocks that this text picks. With a cell for it, the screen
shows these blocks, as many as it has rows for. -/
theorem listed_by_search_line (config : Config) (disk : Disk) (home : Disk.Place)
    (es : List Loop.Event) :
    let l := (Loop.start (.start config) disk home).run es
    let s := l.session
    (s.feed = none → s.search = .empty ∧ s.page = .feed) ∧
      (s.feed.isSome = true → ∀ fs, (l.run fs).session.feed.isSome = true) ∧
      ∀ m, s.feed = some m →
        let picked := Query.filter ⟨s.search.text⟩ m.state.blocks
        m.state.query.text = s.search.text ∧ s.visible = picked ∧
          (∀ now area, (View.FeedPage.listPanel now s area).content =
            if picked.isEmpty then
              .lines (Screen.linesOf (View.FeedPage.emptyText s)) .center 0
            else
              .rows (View.blockRows now (View.FeedPage.listHeight area) s.highlighted picked)) ∧
          (s.page = .feed → picked ≠ [] → ∀ now w h,
            let a := (View.FeedPage.strip s (View.screenOf w h) 4).inner
            0 < a.width → 0 < a.height →
              (View.paint now s w h).1.Shows a
                (View.blockRows now a.height s.highlighted picked)) := by
  intro l s
  have h : s.InStep := Loop.inStep_run (Loop.inStep_start config disk home) es
  refine ⟨h.blank, fun hfeed fs => ?_, fun m hm => ?_⟩
  · have hsetup : s.needsSetup = false := by rw [needsSetup, Option.isNone_eq_false_iff, hfeed]
    have hstill := Loop.needsSetup_eq (Loop.standing_run_of_feed hsetup fs)
    rw [hsetup, needsSetup, Option.isNone_eq_false_iff] at hstill
    exact hstill
  · have hvisible := h.visible_eq hm
    refine ⟨by rw [h.query m hm], hvisible, fun now area => ?_, fun hpage hpicked now w h => ?_⟩
    · rw [View.FeedPage.listPanel, hvisible]
    · intro a hwidth hheight
      have hfeed : s.feed.isSome = true := by rw [hm, Option.isSome_some]
      rw [← hvisible] at hpicked ⊢
      exact View.FeedPage.shows_blocks now hfeed hpage hpicked hwidth hheight

end FeedExplorer.Session
