import FeedExplorer.Feed.Timeline
import Mathlib.Algebra.BigOperators.Ring.Finset
import Mathlib.Algebra.Order.Group.Nat
import Mathlib.Data.Nat.Cast.Basic
import Mathlib.Tactic.Ring

/-!
# Ticking

When the timer of a feed asks for the blocks. Main statement: from each start on it does so at once
and then once a period until the feed is stopped or let go, whenever the answers come.
-/

namespace FeedExplorer.Feed

open Chain (Failure Snapshot)

namespace Machine

variable (m : Machine)

@[simp] theorem running_spawn (origin : Origin) : (m.spawn origin).running = m.running := rfl

@[simp] theorem running_begin (id : Nat) : (m.begin id).running = m.running := by
  unfold «begin»
  split <;> rfl

@[simp] theorem running_answer (id : Nat) (result : Except Failure Snapshot) :
    (m.answer id result).1.running = m.running := by
  unfold answer
  split <;> rfl

@[simp] theorem running_stop : m.stop.running = false := by
  unfold stop
  by_cases h : m.running <;> simp [h]

theorem running_ask (id : Nat) : (m.run [.tick, .begin id]).running = m.running := by
  by_cases h : m.running <;> simp [step, h]

end Machine

namespace Timeline

variable {σ : Type} {src : Source σ} {t t' t'' : Timeline σ}

/-! ## One event -/

/-- Nothing but answers to refreshes is awaited. -/
def Answering (t : Timeline σ) : Prop :=
  ∀ d ∈ t.due, ∃ id result, d.event = .answer id result

/-- The timer has ticked some times, and its owner has left it alone. -/
structure Ticked (t t' : Timeline σ) (n : Nat) : Prop where
  period : t'.period = t.period
  running : t'.machine.running = t.machine.running
  calls : t'.fetchCalls = t.fetchCalls + n
  next : t'.nextTick = t.nextTick.map (· + n * t.period)
  awaited : t'.due.length ≤ t.due.length + n
  answering : t'.Answering

theorem Ticked.refl (h : t.Answering) : Ticked t t 0 where
  period := rfl
  running := rfl
  calls := rfl
  next := by simp
  awaited := le_rfl
  answering := h

theorem Ticked.trans {n k : Nat} (h : Ticked t t' n) (h' : Ticked t' t'' k) :
    Ticked t t'' (n + k) where
  period := h'.period.trans h.period
  running := h'.running.trans h.running
  calls := by rw [h'.calls, h.calls, Nat.add_assoc]
  next := by
    rw [h'.next, h.next, Option.map_map, h.period]
    congr 1
    funext x
    simp only [Function.comp]
    ring
  awaited := by
    have := h.awaited
    have := h'.awaited
    omega
  answering := h'.answering

theorem mem_insertDue {d e : Due} {due : List Due} (h : e ∈ insertDue d due) :
    e = d ∨ e ∈ due := by
  induction due with
  | nil => simpa [insertDue] using h
  | cons c due ih =>
    rw [insertDue] at h
    split at h
    · simpa using h
    · rcases List.mem_cons.mp h with rfl | h
      · simp
      · rcases ih h with rfl | h <;> simp [*]

theorem length_insertDue (d : Due) (due : List Due) :
    (insertDue d due).length = due.length + 1 := by
  induction due with
  | nil => rfl
  | cons c due ih =>
    rw [insertDue]
    split
    · rfl
    · rw [List.length_cons, ih, List.length_cons]

theorem ticked_finish (h : t.Answering) {d : Due} {rest : List Due} (hd : t.due = d :: rest) :
    Ticked t ({ t with now := d.time, due := rest }.finish d.owner d.event) 0 := by
  unfold Answering at h
  rw [hd, List.forall_mem_cons] at h
  obtain ⟨⟨id, result, he⟩, hrest⟩ := h
  exact {
    period := rfl
    running := by rw [he]; exact t.machine.running_answer id result
    calls := rfl
    next := by simp [finish]
    awaited := by simp [finish, hd]
    answering := hrest }

@[simp] theorem now_schedule (t : Timeline σ) (delay : Nat) (owner : Owner) (event : Event) :
    (t.schedule delay owner event).now = t.now := by
  unfold schedule
  split <;> rfl

/-- The source is asked, and the answer is awaited unless it comes at once. -/
theorem ticked_tick (h : t.Answering) {k : Nat} (hk : t.nextTick = some k) :
    Ticked t (t.tick src k) 1 := by
  unfold tick ask
  dsimp only
  have hrunning := t.machine.running_ask t.machine.spawned
  unfold schedule
  split
  · exact {
      period := rfl
      running := (Machine.running_answer _ _ _).trans hrunning
      calls := rfl
      next := by simp [finish, hk]
      awaited := Nat.le_succ _
      answering := h }
  · exact {
      period := rfl
      running := hrunning
      calls := rfl
      next := by simp [hk]
      awaited := (length_insertDue _ _).le
      answering := by
        intro d hd
        rcases mem_insertDue hd with rfl | hd
        · exact ⟨_, _, rfl⟩
        · exact h d hd }

@[simp] theorem now_tick (t : Timeline σ) (k : Nat) : (t.tick src k).now = k := by
  simp [tick, ask]

/-! ## Time passes -/

/-- What comes next in a timeline up to a moment: a tick or the end of a call. -/
inductive Next (src : Source σ) (limit : Nat) (t : Timeline σ) : Timeline σ → Prop
  | ticked (k : Nat) (next : t.nextTick = some k) (le : k ≤ limit) : Next src limit t (t.tick src k)
  | finished (d : Due) (rest : List Due) (due : t.due = d :: rest) (le : d.time ≤ limit) :
      Next src limit t ({ t with now := d.time, due := rest }.finish d.owner d.event)

theorem drain_cases (src : Source σ) (fuel limit : Nat) (t : Timeline σ) :
    (∃ t', Next src limit t t' ∧ t.drain src (fuel + 1) limit = t'.drain src fuel limit) ∨
      t.drain src (fuel + 1) limit = t ∧ ∀ k, t.nextTick = some k → limit < k := by
  rw [drain]
  split
  · next k d rest hk hd =>
    obtain ⟨hk, hle⟩ := Option.filter_eq_some_iff.mp hk
    have hle : k ≤ limit := by simpa using hle
    split
    · next hdk => exact .inl ⟨_, .finished d rest hd (hdk.trans hle), rfl⟩
    · exact .inl ⟨_, .ticked k hk hle, rfl⟩
  · next k hk hd =>
    obtain ⟨hk, hle⟩ := Option.filter_eq_some_iff.mp hk
    exact .inl ⟨_, .ticked k hk (by simpa using hle), rfl⟩
  · next d rest hk hd =>
    split
    · next hle => exact .inl ⟨_, .finished d rest hd hle, rfl⟩
    · refine .inr ⟨rfl, fun k hnext => ?_⟩
      simpa [hnext] using hk
  · next hk hd =>
    refine .inr ⟨rfl, fun k hnext => ?_⟩
    simpa [hnext] using hk

/-- The ticks that are due up to a moment. -/
def ticksUntil (t : Timeline σ) (limit : Nat) : Nat :=
  t.nextTick.elim 0 fun k => (limit + t.period - k) / t.period

/-- A bound for the events that are due up to a moment: each tick can bring an answer. -/
def eventsUntil (t : Timeline σ) (limit : Nat) : Nat :=
  2 * t.nextTick.elim 0 (fun k => limit + 1 - k) + t.due.length

theorem ticksUntil_eq_zero (hp : 0 < t.period) {limit : Nat}
    (h : ∀ k, t.nextTick = some k → limit < k) : t.ticksUntil limit = 0 := by
  unfold ticksUntil
  cases hk : t.nextTick with
  | none => rfl
  | some k =>
    have := h k hk
    exact Nat.div_eq_of_lt (by omega)

/-- What happens next is one of the ticks that are due, or no tick at all. -/
theorem Next.ticked_exists (hp : 0 < t.period) (ha : t.Answering) {limit : Nat}
    (h : Next src limit t t') :
    ∃ n, Ticked t t' n ∧ t.ticksUntil limit = n + t'.ticksUntil limit ∧
      t'.eventsUntil limit < t.eventsUntil limit := by
  cases h with
  | ticked k next le =>
    have hticked : Ticked t (t.tick src k) 1 := ticked_tick ha next
    have hnext : (t.tick src k).nextTick = some (k + t.period) := by
      rw [hticked.next, next, Option.map_some, Nat.one_mul]
    refine ⟨1, hticked, ?_, ?_⟩
    -- one tick fewer is due
    · have hsub : limit + t.period - k = limit - k + t.period := by omega
      have hsub' : limit + t.period - (k + t.period) = limit - k := by omega
      simp only [ticksUntil, next, hnext, hticked.period, Option.elim_some, hsub, hsub',
        Nat.add_div_right _ hp, Nat.add_comm 1]
    -- the answer that is now awaited takes the place of the tick in the bound
    · have := hticked.awaited
      simp only [eventsUntil, next, hnext, Option.elim_some]
      omega
  | finished d rest due le =>
    have hticked := ticked_finish ha due
    refine ⟨0, hticked, (Nat.zero_add _).symm, ?_⟩
    simp [eventsUntil, due, finish]

/-- With fuel for all events that are due no tick is left out. -/
theorem ticked_drain (hp : 0 < t.period) (ha : t.Answering) {fuel limit : Nat}
    (hf : t.eventsUntil limit ≤ fuel) : Ticked t (t.drain src fuel limit) (t.ticksUntil limit) := by
  induction fuel generalizing t with
  | zero =>
    have hnone : ∀ k, t.nextTick = some k → limit < k := by
      intro k hk
      simp only [eventsUntil, hk, Option.elim_some] at hf
      omega
    rw [ticksUntil_eq_zero hp hnone]
    exact .refl ha
  | succ fuel ih =>
    rcases drain_cases src fuel limit t with ⟨t', hnext, hdrain⟩ | ⟨hdrain, hnone⟩
    · obtain ⟨n, hticked, hticks, hevents⟩ := hnext.ticked_exists hp ha
      rw [hdrain, hticks]
      have hp' : 0 < t'.period := hticked.period ▸ hp
      exact hticked.trans (ih hp' hticked.answering (by omega))
    · rw [hdrain, ticksUntil_eq_zero hp hnone]
      exact .refl ha

theorem now_drain_le {fuel limit : Nat} (h : t.now ≤ limit) :
    (t.drain src fuel limit).now ≤ limit := by
  induction fuel generalizing t with
  | zero => exact h
  | succ fuel ih =>
    rcases drain_cases src fuel limit t with ⟨t', hnext, hdrain⟩ | ⟨hdrain, -⟩
    · rw [hdrain]
      apply ih
      cases hnext with
      | ticked k next le => rwa [now_tick]
      | finished d rest due le => exact le
    · rwa [hdrain]

/-- Up to a moment the timer ticks as often as is due. -/
theorem ticked_runUntil (hp : 0 < t.period) (ha : t.Answering)
    (hnext : ∀ k, t.nextTick = some k → t.now ≤ k) (limit : Nat) :
    Ticked t (t.runUntil src limit) (t.ticksUntil limit) := by
  have hf : t.eventsUntil limit ≤ 2 * (limit + 1 - t.now) + t.due.length := by
    unfold eventsUntil
    cases hk : t.nextTick with
    | none => simp
    | some k =>
      have := hnext k hk
      simp only [Option.elim_some]
      omega
  have hdrain : Ticked t (t.drain src (2 * (limit + 1 - t.now) + t.due.length) limit)
      (t.ticksUntil limit) := ticked_drain hp ha hf
  exact ⟨hdrain.period, hdrain.running, hdrain.calls, hdrain.next, hdrain.awaited,
    hdrain.answering⟩

theorem now_runUntil {limit : Nat} (h : t.now ≤ limit) : (t.runUntil src limit).now = limit :=
  max_eq_right (now_drain_le h)

/-- A timeline whose timer is about to tick for the first time. -/
def ready (t : Timeline σ) : Timeline σ :=
  { t with machine := (t.machine.step .start).1, nextTick := some t.now }

theorem start_eq (hr : t.machine.running = false) (hp : 0 < t.period) :
    t.start src = t.ready.runUntil src t.now := by
  rw [start, if_neg (by simp [hr]), if_neg (by omega)]
  rfl

/-! ## What the owner does -/

/-- What the owner of a feed does to it, and that time passes. -/
inductive Action where
  | start
  | stop
  /-- The owner lets the feed go. -/
  | drop
  | advance (ms : Nat)
  deriving DecidableEq, Repr

/-- The timer of a feed that is let go ends like that of one that is stopped. -/
def act (src : Source σ) (t : Timeline σ) : Action → Timeline σ
  | .start => t.start src
  | .stop | .drop => t.stop
  | .advance ms => t.advance src ms

def perform (src : Source σ) (t : Timeline σ) (acts : List Action) : Timeline σ :=
  acts.foldl (act src) t

/-- The times during which a feed has been running. -/
structure Spans where
  now : Nat
  /-- The beginnings and ends of those that are over. -/
  past : List (Nat × Nat)
  /-- The beginning of the present one. -/
  since : Option Nat
  deriving DecidableEq, Repr

namespace Spans

def act (s : Spans) : Action → Spans
  | .start => { s with since := some (s.since.getD s.now) }
  | .stop | .drop =>
    { s with past := s.past ++ (s.since.map (·, s.now)).toList, since := none }
  | .advance ms => { s with now := s.now + ms }

/-- The times during which a feed runs when its owner does some things in turn. -/
def after (acts : List Action) : Spans :=
  acts.foldl act ⟨0, [], none⟩

/-- All spans, the present one up to now. -/
def all (s : Spans) : List (Nat × Nat) :=
  s.past ++ (s.since.map (·, s.now)).toList

end Spans

/-- The multiples of a period from zero up to a number. -/
def beats (period length : Nat) : Nat :=
  length / period + 1

/-- A timeline shows what its owner has done. -/
structure Follows (t : Timeline σ) (p : Nat) (s : Spans) : Prop where
  period : t.period = p
  now : t.now = s.now
  running : t.machine.running = s.since.isSome
  next : t.nextTick = s.since.map fun a => a + beats p (s.now - a) * p
  calls : t.fetchCalls = (s.all.map fun ab => beats p (ab.2 - ab.1)).sum
  since_le : ∀ a, s.since = some a → a ≤ s.now
  begin_le_end : ∀ ab ∈ s.past, ab.1 ≤ ab.2
  answering : t.Answering

namespace Follows

variable {p : Nat} {s : Spans}

theorem now_lt_nextTick (h : t.Follows p s) (hp : 0 < p) {k : Nat} (hk : t.nextTick = some k) :
    t.now < k := by
  rw [h.next, Option.map_eq_some_iff] at hk
  obtain ⟨a, ha, rfl⟩ := hk
  have hle := h.since_le a ha
  have hlt : s.now - a < (s.now - a) / p * p + p := Nat.lt_div_mul_add hp
  rw [h.now, beats, Nat.add_mul, Nat.one_mul]
  omega

/-- As many ticks are due as there are multiples of the period in the time that passes. -/
theorem ticksUntil_add (h : t.Follows p s) {a : Nat} (ha : s.since = some a) (ms : Nat) :
    beats p (s.now - a) + t.ticksUntil (s.now + ms) = beats p (s.now + ms - a) := by
  have hle := h.since_le a ha
  have hq := Nat.div_mul_le_self (s.now - a) p
  have hsub : s.now + ms + p - (a + beats p (s.now - a) * p) =
      s.now + ms - a - p * ((s.now - a) / p) := by
    rw [beats, Nat.add_mul, Nat.one_mul, Nat.mul_comm p]
    omega
  have hmono : (s.now - a) / p ≤ (s.now + ms - a) / p := Nat.div_le_div_right (by omega)
  rw [ticksUntil, h.next, h.period, ha, Option.map_some, Option.elim_some, hsub, Nat.sub_mul_div,
    beats, beats]
  omega

theorem ticked_advance (h : t.Follows p s) (hp : 0 < p) (ms : Nat) :
    Ticked t (t.advance src ms) (t.ticksUntil (s.now + ms)) := by
  rw [advance, h.now]
  exact ticked_runUntil (h.period ▸ hp) h.answering
    (fun k hk => (h.now_lt_nextTick hp hk).le) (s.now + ms)

theorem act_advance (h : t.Follows p s) (hp : 0 < p) (ms : Nat) :
    (t.advance src ms).Follows p (s.act (.advance ms)) := by
  have hticked : Ticked t (t.advance src ms) (t.ticksUntil (s.now + ms)) := h.ticked_advance hp ms
  exact {
    period := hticked.period.trans h.period
    now := by
      rw [advance, now_runUntil (Nat.le_add_right _ _), h.now]
      rfl
    running := hticked.running.trans h.running
    next := by
      rw [hticked.next, h.next, h.period, Option.map_map]
      apply Option.map_congr
      intro a ha
      simp only [Function.comp, Spans.act, ← h.ticksUntil_add ha ms]
      ring
    calls := by
      rw [hticked.calls, h.calls]
      simp only [Spans.all, Spans.act, List.map_append, List.sum_append]
      cases hs : s.since with
      | none => simp [ticksUntil, h.next, hs]
      | some a =>
        simp only [Option.map_some, Option.toList_some, List.map_cons, List.map_nil,
          List.sum_singleton, ← h.ticksUntil_add hs ms, Nat.add_assoc]
    since_le := fun a ha => (h.since_le a ha).trans (Nat.le_add_right _ _)
    begin_le_end := h.begin_le_end
    answering := hticked.answering }

theorem begin_le_of_mem_all (h : t.Follows p s) {ab : Nat × Nat} (hab : ab ∈ s.all) :
    ab.1 ≤ ab.2 := by
  rcases List.mem_append.mp hab with hab | hab
  · exact h.begin_le_end ab hab
  · obtain ⟨a, ha, rfl⟩ := Option.map_eq_some_iff.mp (Option.mem_toList.mp hab)
    exact h.since_le a ha

theorem act_stop (h : t.Follows p s) : t.stop.Follows p (s.act .stop) where
  period := h.period
  now := h.now
  running := t.machine.running_stop
  next := rfl
  calls := by
    rw [Spans.all, Spans.act, Option.map_none, Option.toList_none, List.append_nil]
    exact h.calls
  since_le := nofun
  begin_le_end := fun _ hab => h.begin_le_of_mem_all hab
  answering := h.answering

/-- A timer that runs goes on as it is when it is started again. -/
theorem start_of_running (h : t.Follows p s) {a : Nat} (ha : s.since = some a) :
    t.start src = t := by
  rw [start, if_pos]
  rw [h.running, ha]
  rfl

/-- A timer that has been started ticks at once. -/
theorem ticked_start (h : t.Follows p s) (hp : 0 < p) (hs : s.since = none) :
    Ticked t.ready (t.start src) 1 := by
  have hticked : Ticked t.ready (t.ready.runUntil src t.now) (t.ready.ticksUntil t.now) := by
    apply ticked_runUntil
    · exact h.period ▸ hp
    · exact h.answering
    · intro k hk
      exact (Option.some.inj hk).le
  have hticks : t.ready.ticksUntil t.now = 1 := by
    simp [ticksUntil, ready, h.period, Nat.div_self hp]
  rw [start_eq (by rw [h.running, hs]; rfl) (h.period ▸ hp), ← hticks]
  exact hticked

theorem act_start (h : t.Follows p s) (hp : 0 < p) (hs : s.since = none) :
    (t.start src).Follows p (s.act .start) := by
  have hticked : Ticked t.ready (t.start src) 1 := h.ticked_start hp hs
  exact {
    period := hticked.period.trans h.period
    now := by
      rw [start_eq (by rw [h.running, hs]; rfl) (h.period ▸ hp)]
      exact (now_runUntil le_rfl).trans h.now
    running := hticked.running
    next := by simp [hticked.next, ready, Spans.act, hs, beats, h.now, h.period]
    calls := by
      rw [hticked.calls]
      simp [ready, h.calls, Spans.all, Spans.act, hs, beats]
    since_le := by simp [Spans.act, hs]
    begin_le_end := h.begin_le_end
    answering := hticked.answering }

theorem act (h : t.Follows p s) (hp : 0 < p) (a : Action) :
    (t.act src a).Follows p (s.act a) := by
  cases a with
  | start =>
    cases hs : s.since with
    | none => exact h.act_start hp hs
    | some a =>
      have hact : s.act .start = s := by rw [Spans.act, hs, Option.getD_some, ← hs]
      rw [Timeline.act, h.start_of_running hs, hact]
      exact h
  | stop => exact h.act_stop
  | drop => exact h.act_stop
  | advance ms => exact h.act_advance hp ms

theorem perform (h : t.Follows p s) (hp : 0 < p) (acts : List Action) :
    (t.perform src acts).Follows p (acts.foldl Spans.act s) := by
  induction acts generalizing t s with
  | nil => exact h
  | cons a acts ih => exact ih (h.act hp a)

end Follows

/-! ## Counting ticks -/

end Timeline

end FeedExplorer.Feed
