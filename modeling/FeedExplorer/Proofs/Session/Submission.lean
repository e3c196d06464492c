import FeedExplorer.Proofs.Session.Setup
import FeedExplorer.Session.Clocked

/-!
# Submitting an address

What becomes of a session and of its feeds when the address line is submitted. Main statement: an
address that is refused changes nothing at all; one that is taken gives the session a new feed, and
whatever still comes in for the feed that it had goes there and not to the new one.
-/

namespace FeedExplorer.Session

open Source (Client)

/-! ## Refused and taken addresses -/

theorem submit_eq_error_iff {s : Session} {disk : Disk} {home : Disk.Place} :
    (∃ text, s.submit disk home = .error text) ↔
      Text.trim s.address.text = "" ∨
        ∃ t, Client.connect (Text.trim s.address.text) s.config.protocol = .error t := by
  unfold submit
  dsimp only
  by_cases hblank : Text.trim s.address.text = ""
  · simp [hblank]
  · rw [if_neg (by simpa [String.isEmpty_iff] using hblank)]
    cases Client.connect (Text.trim s.address.text) s.config.protocol <;> simp [hblank]

/-- The configuration of a session with the address that has been typed. -/
def addressedConfig (s : Session) : Config :=
  s.config.withRpcUrl (Text.trim s.address.text)

/-- The status line of a session that has taken an address tells of a failure to keep it, and of
nothing else. -/
def statusOfKeeping (kept : Except Trouble Unit) : Option String :=
  match kept with
  | .ok _ => none
  | .error t => some ("Connected, but config not saved: " ++ t.line)

theorem statusOfKeeping_eq_none_iff {kept : Except Trouble Unit} :
    statusOfKeeping kept = none ↔ kept = .ok () := by
  cases kept <;> simp [statusOfKeeping]

theorem submit_eq_ok_of {s s' : Session} {disk disk' : Disk} {home : Disk.Place}
    (h : s.submit disk home = .ok (s', disk')) :
    disk' = (s.addressedConfig.keep disk home).2 ∧ s' = { s with
      config := s.addressedConfig, feed := some .initial
      url := some (Text.trim s.address.text), address := .empty
      status := statusOfKeeping (s.addressedConfig.keep disk home).1 } := by
  obtain ⟨kept, hkeep, rfl⟩ := session_of_submit h
  rw [addressedConfig, hkeep]
  exact ⟨rfl, by cases kept <;> rfl⟩

theorem refused_iff (c : Clocked) :
    (∃ text, c.submit = .error text) ↔ ∃ text, c.session.submit c.disk c.home = .error text := by
  rw [Clocked.submit]
  split <;> simp [*]

theorem submit_congr_feed (s : Session) (feed : Option Feed.Machine) (disk : Disk)
    (home : Disk.Place) : ({ s with feed } : Session).submit disk home = s.submit disk home := by
  rw [submit, submit]

/-- What comes of submitting depends on nothing that belongs to the feed: not on its state, its
clock or the calls that are under way. -/
theorem Clocked.submit_congr_feed (c : Clocked) (feed : Option Feed.Machine)
    (timeline : Feed.Timeline Source.Supply) :
    ({ c with session := { c.session with feed }, timeline } : Clocked).submit = c.submit := by
  rw [Clocked.submit, Clocked.submit, Session.submit_congr_feed]

/-! ## Feeds that are still held -/

/-- A session together with the feeds that it has let go. Feeds are numbered in the order in which
the session has had them, and what belongs to a feed, such as the answer to one of its calls, finds
it by its number. -/
structure Holding where
  clocked : Clocked
  former : List Feed.Machine

namespace Holding

/-- The number of the feed that the session has or is going to have. -/
def present (h : Holding) : Nat :=
  h.former.length

/-- The feed with a number. -/
def feed? (h : Holding) (n : Nat) : Option Feed.Machine :=
  if n = h.present then h.clocked.session.feed else h.former[n]?

/-- An event of the feed with a number, which may have been let go. -/
def tell (h : Holding) (n : Nat) (e : Feed.Event) : Holding :=
  if n = h.present then { h with clocked := h.clocked.mapSession (·.tell e) }
  else { h with former := h.former.modify n fun m => (m.step e).1 }

/-- The events of some feeds in turn. -/
def tellAll (h : Holding) (es : List (Nat × Feed.Event)) : Holding :=
  es.foldl (fun h e => h.tell e.1 e.2) h

/-- The events of one feed among those of all. -/
def eventsOf (n : Nat) (es : List (Nat × Feed.Event)) : List Feed.Event :=
  (es.filter (·.1 = n)).map (·.2)

/-- Submits the address line. The feed that is replaced is let go. -/
def submit (h : Holding) : Holding × Except String Unit :=
  match h.clocked.submit with
  | .error text => (h, .error text)
  | .ok clocked =>
    let dropped := h.clocked.session.feed.map fun m => (m.step .drop).1
    ({ clocked, former := h.former ++ dropped.toList }, .ok ())

variable {h : Holding}

/-! ## One event, and many -/

theorem present_tell (h : Holding) (n : Nat) (e : Feed.Event) :
    (h.tell n e).present = h.present := by
  unfold tell
  split
  · rfl
  · exact List.length_modify ..

/-- An event reaches the feed whose number it has, and no other. -/
theorem feed?_tell (h : Holding) (k n : Nat) (e : Feed.Event) :
    (h.tell k e).feed? n = if k = n then (h.feed? n).map fun m => (m.step e).1 else h.feed? n := by
  unfold feed?
  rw [present_tell]
  unfold tell
  by_cases hk : k = h.present
  · subst hk
    rw [if_pos rfl]
    by_cases hn : n = h.present
    · rw [if_pos hn, if_pos hn.symm, if_pos hn]
      rfl
    · rw [if_neg hn, if_neg (Ne.symm hn), if_neg hn]
  · rw [if_neg hk]
    by_cases hn : n = h.present
    · rw [if_pos hn, if_neg fun heq => hk (heq.trans hn), if_pos hn]
    · rw [if_neg hn, if_neg hn, List.getElem?_modify]
      split <;> simp

theorem eventsOf_cons (n : Nat) (e : Nat × Feed.Event) (es : List (Nat × Feed.Event)) :
    eventsOf n (e :: es) = if e.1 = n then e.2 :: eventsOf n es else eventsOf n es := by
  by_cases he : e.1 = n <;> simp [eventsOf, he]

/-- Every feed hears its own events, in their order, and nothing else. -/
theorem feed?_tellAll (h : Holding) (n : Nat) (es : List (Nat × Feed.Event)) :
    (h.tellAll es).feed? n = (h.feed? n).map (·.run (eventsOf n es)) := by
  induction es generalizing h with
  | nil => cases hfeed : h.feed? n <;> simp [tellAll, eventsOf, Feed.Machine.run, hfeed]
  | cons e es ih =>
    rw [show h.tellAll (e :: es) = (h.tell e.1 e.2).tellAll es from rfl, ih, feed?_tell,
      eventsOf_cons]
    split
    · rw [Option.map_map]
      rfl
    · rfl

theorem present_tellAll (h : Holding) (es : List (Nat × Feed.Event)) :
    (h.tellAll es).present = h.present := by
  induction es generalizing h with
  | nil => rfl
  | cons e es ih => exact (ih _).trans (present_tell h e.1 e.2)

/-- Events of feeds that have been let go leave the session alone. -/
theorem clocked_tellAll_of_former {es : List (Nat × Feed.Event)}
    (hes : ∀ e ∈ es, e.1 ≠ h.present) : (h.tellAll es).clocked = h.clocked := by
  induction es generalizing h with
  | nil => rfl
  | cons e es ih =>
    obtain ⟨hne, hes⟩ := List.forall_mem_cons.mp hes
    refine (ih (h := h.tell e.1 e.2) ?_).trans (by rw [tell, if_neg hne])
    exact fun e' he' => present_tell h e.1 e.2 ▸ hes e' he'

/-! ## Submitting -/

/-- What a holding is like after its session has taken an address. -/
structure Follows (h' h : Holding) : Prop where
  /-- The new session has a feed that has not been started, and asks for no address. Whether keeping
  the configuration went well is told by the status line. Nothing else of it is new. -/
  session : h'.clocked.session =
    { h.clocked.session with
      config := h.clocked.session.addressedConfig
      feed := some .initial
      url := some (Text.trim h.clocked.session.address.text)
      address := .empty
      status := statusOfKeeping
        (h.clocked.session.addressedConfig.keep h.clocked.disk h.clocked.home).1 }
  /-- The configuration with the address has been kept. -/
  disk : h'.clocked.disk =
    (h.clocked.session.addressedConfig.keep h.clocked.disk h.clocked.home).2
  home : h'.clocked.home = h.clocked.home
  /-- The clock of the feed stands, with the interval that has been set, and no call is under way. -/
  clock : h'.clocked.timeline.period = h.clocked.session.config.effectiveInterval ∧
    h'.clocked.timeline.nextTick = none ∧ h'.clocked.timeline.due = []
  /-- The feed before it, if there was one, has been let go and keeps its number. -/
  replaced : ∀ m, h.clocked.session.feed = some m →
    h.present < h'.present ∧ h'.feed? h.present = some (m.step .drop).1
  /-- The feeds let go earlier are still there. -/
  former : ∀ n < h.present, h'.feed? n = h.feed? n

theorem feed?_present (h : Holding) : h.feed? h.present = h.clocked.session.feed :=
  if_pos rfl

theorem feed?_of_lt {n : Nat} (hn : n < h.present) : h.feed? n = h.former[n]? :=
  if_neg (Nat.ne_of_lt hn)

theorem submit_of_error {text : String} (hrefused : h.clocked.submit = .error text) :
    h.submit = (h, .error text) := by
  rw [submit, hrefused]

theorem submit_of_ok {c : Clocked} (htaken : h.clocked.submit = .ok c) :
    h.submit = ({ clocked := c
                  former := h.former ++
                    (h.clocked.session.feed.map fun m => (m.step .drop).1).toList }, .ok ()) := by
  rw [submit, htaken]

/-- A session that takes an address lets its feed go and has a new one. -/
theorem submit_follows {c : Clocked} (htaken : h.clocked.submit = .ok c) :
    h.submit.1.Follows h := by
  have hclocked := htaken
  unfold Clocked.submit at hclocked
  split at hclocked
  · cases hclocked
  next s disk hsubmit =>
    obtain rfl := Except.ok.inj hclocked
    obtain ⟨hdisk, hsession⟩ := submit_eq_ok_of hsubmit
    rw [submit_of_ok htaken]
    constructor
    · exact hsession
    · exact hdisk
    · rfl
    · refine ⟨?_, rfl, rfl⟩
      rw [hsession]
      rfl
    · intro m hm
      have hformer : h.former ++ (h.clocked.session.feed.map fun m => (m.step .drop).1).toList =
          h.former ++ [(m.step .drop).1] := by rw [hm]; rfl
      rw [hformer]
      have hlt : h.present < (h.former ++ [(m.step .drop).1]).length := by simp [present]
      exact ⟨hlt, (feed?_of_lt hlt).trans List.getElem?_concat_length⟩
    · intro n hn
      have hmore (former : List Feed.Machine) : n < (h.former ++ former).length := by
        rw [List.length_append]
        exact Nat.lt_add_right _ hn
      rw [feed?_of_lt hn, feed?_of_lt (hmore _)]
      exact List.getElem?_append_left hn

/-- A submitted address is refused exactly when it is blank or no client can be made for it, and
then nothing at all has changed. When it is taken, the session has a new feed that has not been
started, the address is kept with the rest of the configuration, and the status line is empty exactly
when that went well. The old feed has no part in what comes then: the outcome is the same whatever
its state, its clock and its calls under way, and whatever happens from then on, each feed hears its
own events only, so that the answers to the calls of the old feed never reach the new one, nor
anything else of the session. -/
theorem submit_all_or_nothing (h : Holding) :
    ((∃ text, h.submit.2 = .error text) ↔
      Text.trim h.clocked.session.address.text = "" ∨
        ∃ t, Client.connect (Text.trim h.clocked.session.address.text)
          h.clocked.session.config.protocol = .error t) ∧
    (∀ text, h.submit.2 = .error text → h.submit.1 = h) ∧
    (h.submit.2 = .ok () →
      h.submit.1.Follows h ∧
      (h.submit.1.clocked.session.status = none ↔
        (h.clocked.session.addressedConfig.keep h.clocked.disk h.clocked.home).1 = .ok ()) ∧
      (∀ feed timeline, ({ h.clocked with
          session := { h.clocked.session with feed }, timeline } : Clocked).submit =
        .ok h.submit.1.clocked) ∧
      ∀ es : List (Nat × Feed.Event),
        (h.submit.1.tellAll es).clocked.session.feed =
          some (Feed.Machine.initial.run (eventsOf h.submit.1.present es)) ∧
        ((∀ e ∈ es, e.1 ≠ h.submit.1.present) →
          (h.submit.1.tellAll es).clocked = h.submit.1.clocked)) := by
  cases htaken : h.clocked.submit with
  | error text =>
    rw [submit_of_error htaken]
    refine ⟨⟨fun _ => ?_, fun _ => ⟨text, rfl⟩⟩, fun _ _ => rfl, nofun⟩
    exact submit_eq_error_iff.mp ((refused_iff h.clocked).mp ⟨text, htaken⟩)
  | ok c =>
    have hfollows := submit_follows htaken
    have hok : h.submit.2 = .ok () := congrArg Prod.snd (submit_of_ok htaken)
    rw [hok]
    refine ⟨⟨nofun, fun hrefused => ?_⟩, nofun,
      fun _ => ⟨hfollows, ?_, fun feed timeline => ?_, fun es => ⟨?_, ?_⟩⟩⟩
    · obtain ⟨text, herror⟩ := (refused_iff h.clocked).mpr (submit_eq_error_iff.mpr hrefused)
      rw [htaken] at herror
      cases herror
    · rw [hfollows.session]
      exact statusOfKeeping_eq_none_iff
    · rw [Clocked.submit_congr_feed, htaken, submit_of_ok htaken]
    · rw [← feed?_present, present_tellAll, feed?_tellAll, feed?_present, hfollows.session]
      rfl
    · exact clocked_tellAll_of_former

/-- A session whose feed waits for an answer, with an address typed and a file where the directory
of its configuration would have to be. -/
def waiting : Holding :=
  let feed := Feed.Machine.initial.run [.start, .request, .begin 0]
  let session := Session.build .initial (some feed)
  { clocked :=
      { session := { session with address := ⟨"http://h ".toList.reverse, []⟩ }
        timeline := Clocked.newTimeline .initial Clocked.noSupply
        disk := ⟨[(["home"], .file [])]⟩
        home := ⟨"/home", ["home"]⟩ }
    former := [] }

theorem submit_all_or_nothing_unsaved :
    waiting.submit.1.Follows waiting ∧ waiting.submit.1.clocked.session.status ≠ none ∧
      (waiting.submit.1.tellAll [(0, .answer 0 (.ok ⟨[], none, none⟩))]).clocked =
        waiting.submit.1.clocked := by
  have htaken : waiting.submit.2 = .ok () := Json.toOption_eq_some_iff.mp (by decide +kernel)
  obtain ⟨hfollows, hstatus, -, hevents⟩ := (submit_all_or_nothing waiting).2.2 htaken
  refine ⟨hfollows, hstatus.not.mpr (by decide +kernel), (hevents _).2 ?_⟩
  decide +kernel

end Holding

end FeedExplorer.Session
