import FeedExplorer.Proofs.Session.Setup
import Mathlib.Data.List.Induction

/-!
# The status line

What the status line says of the calls that keys have asked for. Main statements: it names a kind of
call only as long as one of that kind has not been told; and a mint under way is announced up to the
message of a refresh, or of a mint that failed, and not beyond.
-/

namespace FeedExplorer.Session

open Chain (Block Failure Snapshot)

/-- What a key can ask for. -/
inductive Call where
  | mint
  | refresh
  deriving DecidableEq, Repr

/-- What is said when a call is asked for. -/
def Call.text : Call → String
  | .mint => minting
  | .refresh => refreshing

theorem Call.text_injective : Function.Injective Call.text := by
  intro c d h
  cases c <;> cases d <;> simp [text, minting, refreshing] at h ⊢

/-- The kind of call that a message ends. -/
def Message.call : Message → Call
  | .minted _ => .mint
  | .refreshed => .refresh

/-- What changes the status line once there is a feed. -/
inductive Notice where
  | asked (c : Call)
  | told (m : Message)
  deriving DecidableEq, Repr

namespace Notice

/-- The status line that a notice leaves. -/
def status : Notice → Option String
  | .asked c => some c.text
  | .told (.minted b) => b.map fun b => "Created block #" ++ toString b.index.toNat
  | .told .refreshed => none

def asks (c : Call) : Notice → Bool
  | .asked d => d == c
  | .told _ => false

def tells (c : Call) : Notice → Bool
  | .asked _ => false
  | .told m => m.call == c

/-- What is told of a call is not what is said when one is asked for. -/
theorem status_told_ne (m : Message) (c : Call) : (told m).status ≠ some c.text := by
  intro h
  cases m with
  | refreshed => cases h
  | minted b =>
    obtain ⟨b, -, hb⟩ := Option.map_eq_some_iff.mp h
    have hletter := congrArg (fun text : String => text.toList[5]?) hb
    cases c <;> simp [Call.text, minting, refreshing] at hletter

theorem status_eq_none_iff {n : Notice} :
    n.status = none ↔ n = .told .refreshed ∨ n = .told (.minted none) := by
  match n with
  | .asked c => simp [status]
  | .told .refreshed => simp [status]
  | .told (.minted b) => simp [status]

end Notice

/-- The status line after some notices in turn. -/
def statusAfter (status : Option String) (ns : List Notice) : Option String :=
  ns.foldl (fun _ n => n.status) status

theorem statusAfter_append (status : Option String) (ns ms : List Notice) :
    statusAfter status (ns ++ ms) = statusAfter (statusAfter status ns) ms :=
  List.foldl_append

/-- The last notice counts. -/
theorem statusAfter_eq (status : Option String) (ns : List Notice) :
    statusAfter status ns = (ns.getLast?.map Notice.status).getD status := by
  induction ns using List.reverseRecOn with
  | nil => rfl
  | append_singleton ns n =>
    rw [statusAfter_append, List.getLast?_concat]
    rfl

theorem status_foldl_receive (s : Session) (inbox : List Message) :
    (inbox.foldl receive s).status = statusAfter s.status (inbox.map .told) := by
  induction inbox generalizing s with
  | nil => rfl
  | cons m inbox ih =>
    have hm : (receive s m).status = (Notice.told m).status := by cases m <;> rfl
    rw [List.foldl_cons, ih, hm]
    rfl

section Quiet

variable (s : Session)

@[simp] theorem status_selectPrevious : s.selectPrevious.status = s.status := by
  unfold selectPrevious
  split <;> rfl

@[simp] theorem status_selectNext : s.selectNext.status = s.status := by
  unfold selectNext
  split <;> split <;> rfl

@[simp] theorem status_openSelected : s.openSelected.1.status = s.status := by
  unfold openSelected
  split <;> rfl

@[simp] theorem status_typeSearch (k : Key) : (s.typeSearch k).status = s.status := by
  unfold typeSearch
  split <;> rfl

@[simp] theorem status_typeAddress (k : Key) : (s.typeAddress k).status = s.status := by
  unfold typeAddress
  split <;> rfl

@[simp] theorem status_pressOnBlock (k : Key) : (s.pressOnBlock k).status = s.status := by
  unfold pressOnBlock
  split_ifs
  · exact s.status_selectPrevious
  · exact s.status_selectNext
  · rfl
  · rfl

end Quiet

/-- On the set-up page nothing is said of calls. -/
theorem submit_error_ne {s : Session} {disk : Disk} {home : Disk.Place} {text : String}
    (h : s.submit disk home = .error text) (c : Call) : text ≠ c.text := by
  rintro rfl
  have hletter : c.text.toList[2]? ≠ some 'v' ∧ c.text.toList[2]? ≠ some 'C' := by
    cases c <;> decide
  unfold submit at h
  dsimp only at h
  split at h
  · have htext := congrArg (fun text : String => text.toList[2]?) (Except.error.inj h)
    simp at htext
    exact hletter.2 htext.symm
  split at h
  · have htext := congrArg (fun text : String => text.toList[2]?) (Except.error.inj h)
    simp at htext
    exact hletter.1 htext.symm
  · cases h

theorem status_of_submit {s s' : Session} {disk disk' : Disk} {home : Disk.Place}
    (h : s.submit disk home = .ok (s', disk')) (c : Call) : s'.status ≠ some c.text := by
  obtain ⟨kept, -, rfl⟩ := session_of_submit h
  cases kept with
  | ok _ => exact nofun
  | error t =>
    intro hstatus
    have hletter := congrArg (fun text : String => text.toList[2]?) (Option.some.inj hstatus)
    cases c <;> simp [Call.text, minting, refreshing] at hletter

/-- The call that a key asks for on the page of a feed. -/
def Key.call? : Key → Option Call
  | .control 'n' => some .mint
  | .control 'r' => some .refresh
  | _ => none

namespace Loop

/-- The notices that an event gives, the first one first. -/
def noticesAt (l : Loop) : Event → List Notice
  | .press k =>
    if l.session.quitting || l.session.needsSetup || !l.session.onFeed then []
    else (k.call?.map .asked).toList
  | .handle => if l.session.quitting then [] else l.inbox.map .told
  | _ => []

/-- The notices of a run. -/
def notices (l : Loop) : List Event → List Notice
  | [] => []
  | e :: es => l.noticesAt e ++ (l.step e).notices es

/-- How many calls of a kind have not been answered. -/
def underWay (l : Loop) : Call → Nat
  | .mint => l.minting
  | .refresh => l.refreshing.length

/-- How many calls of a kind have been asked for and not been told: they are under way, or their
message waits. -/
def pending (l : Loop) (c : Call) : Nat :=
  l.underWay c + l.inbox.countP (·.call == c)

/-- Everything that an event can do to the status line and to the calls that have not been told. -/
inductive Turn (l l' : Loop) : List Notice → Prop
  /-- Neither changes. An answer may have become a message. -/
  | still (hstatus : l'.session.status = l.session.status)
      (hpending : ∀ c, l'.pending c = l.pending c) : Turn l l' []
  | setUp (hsetup : l.session.needsSetup = true)
      (hstatus : ∀ c : Call, l'.session.status ≠ some c.text)
      (hpending : ∀ c, l'.pending c = l.pending c) : Turn l l' []
  | asks (c : Call) (hstatus : l'.session.status = some c.text)
      (hpending : ∀ d, l'.pending d = l.pending d + if d = c then 1 else 0) : Turn l l' [.asked c]
  | tells (hstatus : l'.session.status = statusAfter l.session.status (l.inbox.map .told))
      (hpending : ∀ c, l.pending c = l'.pending c + l.inbox.countP (·.call == c)) :
      Turn l l' (l.inbox.map .told)

/-- Whether someone has quit does not matter. -/
theorem Turn.of_quitting {l l' : Loop} {ns : List Notice} {b : Bool}
    (h : Turn (l.withSession { l.session with quitting := b }) l' ns) : Turn l l' ns := by
  cases h with
  | still hstatus hpending => exact .still hstatus hpending
  | setUp hsetup hstatus hpending => exact .setUp hsetup hstatus hpending
  | asks c hstatus hpending => exact .asks c hstatus hpending
  | tells hstatus hpending => exact .tells hstatus hpending

section Turns

variable (l : Loop)

theorem turn_withSession {s : Session} (h : s.status = l.session.status) :
    Turn l (l.withSession s) [] :=
  .still h fun _ => rfl

theorem turn_pressOnSetup (hsetup : l.session.needsSetup = true) (k : Key) :
    Turn l (l.pressOnSetup k) [] := by
  unfold pressOnSetup
  split
  · split
    · next s disk hsubmit => exact .setUp hsetup (fun c => status_of_submit hsubmit c) fun _ => rfl
    · next text hsubmit =>
      refine .setUp hsetup (fun c hstatus => ?_) fun _ => rfl
      exact submit_error_ne hsubmit c (Option.some.inj hstatus)
  · exact .still rfl fun _ => rfl
  · exact l.turn_withSession (status_typeAddress _ _)

theorem turn_pressOnFeed (m : Feed.Machine) (k : Key) :
    Turn l (l.pressOnFeed m k) (k.call?.map .asked).toList := by
  unfold pressOnFeed
  split
  · refine .asks .mint rfl fun d => ?_
    cases d <;> simp [pending, underWay]
    omega
  · refine .asks .refresh rfl fun d => ?_
    cases d <;> simp [pending, underWay]
    omega
  · exact l.turn_withSession (status_selectPrevious _)
  · exact l.turn_withSession (status_selectNext _)
  · exact l.turn_withSession (status_openSelected _)
  · exact .still rfl fun _ => rfl
  · next hn hr _ _ _ _ =>
    have hcall : k.call? = none := by
      unfold Key.call?
      split
      · exact absurd rfl hn
      · exact absurd rfl hr
      · rfl
    rw [hcall]
    exact l.turn_withSession (status_typeSearch _ _)

theorem turn_answer (id : Nat) (result : Except Failure Snapshot) :
    Turn l (l.answer id result) [] := by
  unfold answer
  dsimp only
  split_ifs with hid
  · refine .still rfl fun c => ?_
    have hlength := List.length_erase_add_one hid
    have hpos := List.length_pos_of_mem hid
    cases c
    · simp [pending, underWay, withSession, Message.call]
    · simp [pending, underWay, withSession, Message.call] at hlength hpos ⊢
      omega
  · exact l.turn_withSession rfl

theorem turn_minted (result : Except Failure Block) : Turn l (l.minted result) [] := by
  unfold minted
  split_ifs with hminting
  · exact .still rfl fun _ => rfl
  · refine .still rfl fun c => ?_
    cases c
    · simp [pending, underWay, Message.call]
      omega
    · simp [pending, underWay, Message.call]

theorem turn_handle : Turn l l.handle (l.inbox.map .told) := by
  refine .tells (status_foldl_receive _ _) fun c => ?_
  cases c <;> simp [pending, underWay, handle]

/-- A key goes to the page that is open. -/
theorem turn_page (k : Key) :
    Turn l
      (match l.session.feed with
        | none => l.pressOnSetup k
        | some m =>
          match l.session.page with
          | .feed => l.pressOnFeed m k
          | .block _ _ => l.withSession (l.session.pressOnBlock k))
      (if l.session.needsSetup || !l.session.onFeed then [] else (k.call?.map .asked).toList) := by
  cases hfeed : l.session.feed with
  | none =>
    have hsetup : l.session.needsSetup = true := by rw [needsSetup, hfeed]; rfl
    rw [hsetup]
    exact l.turn_pressOnSetup hsetup k
  | some m =>
    have hsetup : l.session.needsSetup = false := by rw [needsSetup, hfeed]; rfl
    rw [hsetup, onFeed]
    cases l.session.page with
    | feed => exact l.turn_pressOnFeed m k
    | block b i => exact l.turn_withSession (status_pressOnBlock _ k)

theorem turn_press (h : l.session.quitting = false) (k : Key) :
    Turn l (l.press k) (l.noticesAt (.press k)) := by
  rw [noticesAt, h, Bool.false_or]
  by_cases hquits : k.quits = true
  · rw [press, if_pos hquits]
    exact (turn_page _ k).of_quitting
  · rw [press, if_neg hquits]
    exact l.turn_page k

theorem turn_step (e : Event) : Turn l (l.step e) (l.noticesAt e) := by
  cases e with
  | press k =>
    rw [step]
    split_ifs with hquit
    · rw [noticesAt, hquit]
      exact .still rfl fun _ => rfl
    · exact l.turn_press (Bool.eq_false_iff.mpr hquit) k
  | tick => exact l.turn_withSession rfl
  | «begin» id => exact l.turn_withSession rfl
  | answer id result => exact l.turn_answer id result
  | minted result => exact l.turn_minted result
  | handle =>
    rw [step, noticesAt]
    split_ifs
    · exact .still rfl fun _ => rfl
    · exact l.turn_handle

end Turns

section Runs

variable {l l' : Loop} {ns : List Notice}

/-- What is asked for is told or pending. -/
theorem Turn.balance (h : Turn l l' ns) (c : Call) :
    ns.countP (·.asks c) + l.pending c = ns.countP (·.tells c) + l'.pending c := by
  cases h with
  | still _ hpending => simp [hpending]
  | setUp _ _ hpending => simp [hpending]
  | asks d _ hpending =>
    rw [hpending, List.countP_singleton, List.countP_singleton]
    cases c <;> cases d <;> simp [Notice.asks, Notice.tells] <;> omega
  | tells _ hpending =>
    have hasks : (l.inbox.map Notice.told).countP (·.asks c) = 0 := by
      simp [List.countP_eq_zero, Notice.asks]
    have htells :
        (l.inbox.map Notice.told).countP (·.tells c) = l.inbox.countP (·.call == c) :=
      List.countP_map
    rw [hasks, htells, hpending]
    omega

theorem balance_run (l : Loop) (es : List Event) (c : Call) :
    (l.notices es).countP (·.asks c) + l.pending c =
      (l.notices es).countP (·.tells c) + (l.run es).pending c := by
  induction es generalizing l with
  | nil => simp [notices]
  | cons e es ih =>
    have hstep := (l.turn_step e).balance c
    have hrun := ih (l.step e)
    rw [notices, List.countP_append, List.countP_append, run_cons]
    omega

/-- A call that the status line names is pending. -/
def Named (l : Loop) : Prop :=
  ∀ c : Call, l.session.status = some c.text → 0 < l.pending c

theorem Turn.named (h : Turn l l' ns) (hnamed : l.Named) : l'.Named := by
  intro c hc
  cases h with
  | still hstatus hpending =>
    rw [hstatus] at hc
    rw [hpending]
    exact hnamed c hc
  | setUp _ hstatus _ => exact absurd hc (hstatus c)
  | asks d hstatus hpending =>
    rw [hstatus] at hc
    rw [hpending, Call.text_injective (Option.some.inj hc), if_pos rfl]
    omega
  | tells hstatus hpending =>
    -- what is told names no call, so nothing has been told
    rw [hstatus, statusAfter_eq, List.getLast?_map] at hc
    have hpending := hpending c
    cases hlast : l.inbox.getLast? with
    | some m =>
      rw [hlast] at hc
      exact absurd hc (Notice.status_told_ne m c)
    | none =>
      rw [hlast] at hc
      rw [List.getLast?_eq_none_iff.mp hlast, List.countP_nil] at hpending
      exact (hnamed c hc).trans_eq hpending

theorem named_run (h : l.Named) (es : List Event) : (l.run es).Named := by
  induction es generalizing l with
  | nil => exact h
  | cons e es ih => exact ih ((l.turn_step e).named h)

theorem pending_mint : 0 < l.pending .mint ↔ 0 < l.minting ∨ ∃ b, .minted b ∈ l.inbox := by
  rw [pending, Nat.add_pos_iff_pos_or_pos, List.countP_pos_iff]
  refine or_congr_right ⟨?_, ?_⟩
  · rintro ⟨m, hm, hcall⟩
    cases m with
    | minted b => exact ⟨b, hm⟩
    | refreshed => cases hcall
  · rintro ⟨b, hb⟩
    exact ⟨_, hb, rfl⟩

theorem pending_refresh : 0 < l.pending .refresh ↔ l.refreshing ≠ [] ∨ .refreshed ∈ l.inbox := by
  rw [pending, Nat.add_pos_iff_pos_or_pos, List.countP_pos_iff]
  refine or_congr List.length_pos_iff ⟨?_, ?_⟩
  · rintro ⟨m, hm, hcall⟩
    cases m with
    | minted b => cases hcall
    | refreshed => exact hm
  · intro hm
    exact ⟨_, hm, rfl⟩

/-- While there is a feed the status line is what the last notice leaves. -/
theorem status_run_of_feed (h : l.session.needsSetup = false) (es : List Event) :
    (l.run es).session.status = statusAfter l.session.status (l.notices es) := by
  induction es generalizing l with
  | nil => rfl
  | cons e es ih =>
    have hstill : (l.step e).session.needsSetup = false :=
      (needsSetup_eq (standing_run_of_feed h [e])).trans h
    have hstep :
        (l.step e).session.status = statusAfter l.session.status (l.noticesAt e) := by
      generalize hns : l.noticesAt e = ns
      have hturn := hns ▸ l.turn_step e
      cases hturn with
      | still hstatus _ => exact hstatus
      | setUp hsetup _ _ =>
        rw [h] at hsetup
        cases hsetup
      | asks c hstatus _ => exact hstatus
      | tells hstatus _ => exact hstatus
    rw [run_cons, ih hstill, hstep, notices, statusAfter_append]

/-- The key has started a mint. -/
theorem started_of_minting_succ
    (h : (l.step (.press (.control 'n'))).minting = l.minting + 1) :
    (l.step (.press (.control 'n'))).session.needsSetup = false ∧
      (l.step (.press (.control 'n'))).session.status = some Session.minting := by
  by_cases hquitting : l.session.quitting = true
  · rw [step, if_pos hquitting] at h
    omega
  rw [step, if_neg hquitting, press, if_neg (by decide : ¬ (Key.control 'n').quits = true)] at h ⊢
  cases hfeed : l.session.feed with
  | none =>
    rw [hfeed] at h
    change l.minting = l.minting + 1 at h
    omega
  | some m =>
    rw [hfeed] at h
    cases hpage : l.session.page with
    | feed =>
      refine ⟨?_, rfl⟩
      change l.session.needsSetup = false
      rw [needsSetup, hfeed]
      rfl
    | block b i =>
      rw [hpage] at h
      change l.minting = l.minting + 1 at h
      omega

end Runs

end Loop

/-- After every run of the loop: the calls that keys have asked for are those that have been told,
those that wait to be told and those under way; the status line names a mint only while a mint is
under way or waits to be told, and a refresh only while a refresh does; so it names neither once
all of them have been told. -/
theorem status_names_pending (config : Config) (disk : Disk) (home : Disk.Place)
    (es : List Loop.Event) :
    let start := Loop.start (.start config) disk home
    let l := start.run es
    (∀ c : Call, (start.notices es).countP (·.asks c) =
        (start.notices es).countP (·.tells c) + l.pending c) ∧
      (l.session.status = some minting → 0 < l.minting ∨ ∃ b, .minted b ∈ l.inbox) ∧
      (l.session.status = some refreshing → l.refreshing ≠ [] ∨ .refreshed ∈ l.inbox) ∧
      ((∀ c : Call, (start.notices es).countP (·.tells c) =
          (start.notices es).countP (·.asks c)) →
        l.session.status ≠ some minting ∧ l.session.status ≠ some refreshing) := by
  intro start l
  have hbalance (c : Call) : (start.notices es).countP (·.asks c) =
      (start.notices es).countP (·.tells c) + l.pending c := by
    have hstart : start.pending c = 0 := by cases c <;> rfl
    rw [← start.balance_run es c, hstart, Nat.add_zero]
  have hnamed : l.Named := by
    apply Loop.named_run
    intro c hc
    cases hc
  have htold_ne (htold : ∀ c : Call, (start.notices es).countP (·.tells c) =
      (start.notices es).countP (·.asks c)) (c : Call) : l.session.status ≠ some c.text := by
    intro hc
    have hpending := hnamed c hc
    have hasked := hbalance c
    rw [htold] at hasked
    omega
  exact ⟨hbalance, fun h => Loop.pending_mint.mp (hnamed .mint h),
    fun h => Loop.pending_refresh.mp (hnamed .refresh h),
    fun htold => ⟨htold_ne htold .mint, htold_ne htold .refresh⟩⟩

/-- A key has started a mint, and whatever happens then: the status line is blank just when the last
notice since has been that a refresh has ended or that a mint has failed, be it this mint or
another. -/
theorem blank_iff_last_told (config : Config) (disk : Disk) (home : Disk.Place)
    (before after : List Loop.Event) :
    let l := (Loop.start (.start config) disk home).run before
    let l' := l.step (.press (.control 'n'))
    l'.minting = l.minting + 1 →
      ((l'.run after).session.status = none ↔
        (l'.notices after).getLast? = some (.told .refreshed) ∨
          (l'.notices after).getLast? = some (.told (.minted none))) := by
  intro l l' hstarted
  obtain ⟨hfeed, hstatus⟩ := Loop.started_of_minting_succ hstarted
  rw [Loop.status_run_of_feed hfeed, statusAfter_eq, hstatus]
  cases (l'.notices after).getLast? with
  | none => simp
  | some n =>
    rw [Option.map_some, Option.getD_some, Notice.status_eq_none_iff, Option.some.injEq,
      Option.some.injEq]

/-- A configuration with an address. -/
def localConfig : Config :=
  { Config.initial with rpcUrl := some "http://127.0.0.1:3030" }

/-- The loop of that configuration. -/
def localLoop : Loop :=
  .start (.start localConfig) ⟨[]⟩ ⟨"/home/u", ["home", "u"]⟩

/-- A refresh asked for by key begins, ends and is told. -/
def refreshEvents : List Loop.Event :=
  [.press (.control 'r'), .begin 0, .answer 0 (.ok ⟨[], none, none⟩), .handle]

/-- A refresh is told while two mints are under way, between the keys that start them. -/
theorem blank_iff_last_told_again :
    let l' := localLoop.step (.press (.control 'n'))
    let after := refreshEvents ++ [.press (.control 'n')]
    l'.minting = localLoop.minting + 1 ∧ (l'.run after).minting = 2 ∧
      (l'.run after).session.status ≠ none := by
  intro l' after
  have hstarted : l'.minting = localLoop.minting + 1 := by decide +kernel
  have hlast : (l'.notices after).getLast? = some (.asked .mint) := by decide +kernel
  refine ⟨hstarted, by decide +kernel, fun hblank => ?_⟩
  have htold := (blank_iff_last_told localConfig ⟨[]⟩ ⟨"/home/u", ["home", "u"]⟩ [] after
    hstarted).mp hblank
  change (l'.notices after).getLast? = _ ∨ (l'.notices after).getLast? = _ at htold
  rw [hlast] at htold
  rcases htold with h | h <;> cases h

/-- A mint is under way, no mint has ended, and the status line is blank. -/
theorem blank_while_minting :
    let l' := localLoop.step (.press (.control 'n'))
    localLoop.minting = 0 ∧ l'.minting = 1 ∧ (l'.run refreshEvents).minting = 1 ∧
      (l'.run refreshEvents).inbox = [] ∧ (l'.run refreshEvents).session.status = none := by
  decide +kernel

end FeedExplorer.Session
