import FeedExplorer.Proofs.Feed.Numbering
import Mathlib.Data.List.Induction
import Mathlib.Order.MinMax

/-!
# Overtaken refreshes

When the answer to a refresh comes too late. Main statement: between the beginning of a refresh
and its answer the highest counted number passes that of the refresh exactly when the answer to a
refresh begun in between arrives, a block is minted, or the running timer is ended.
-/

namespace FeedExplorer.Feed

open Chain (Block Failure Query Snapshot)

/-- Somewhere among the events stands one that fulfils `p` with those before it. -/
def Somewhere (p : List Event → Event → Prop) (es : List Event) : Prop :=
  ∃ before e after, es = before ++ e :: after ∧ p before e

theorem not_somewhere_nil (p : List Event → Event → Prop) : ¬ Somewhere p [] := by
  rintro ⟨before, e, after, h, -⟩
  simp at h

theorem somewhere_concat (p : List Event → Event → Prop) (es : List Event) (e : Event) :
    Somewhere p (es ++ [e]) ↔ Somewhere p es ∨ p es e := by
  constructor
  · rintro ⟨before, d, after, h, hp⟩
    rcases after.eq_nil_or_concat with rfl | ⟨after, c, rfl⟩
    · obtain ⟨rfl, he⟩ := List.append_inj' h rfl
      rw [List.singleton_inj] at he
      exact .inr (he ▸ hp)
    · have h : es ++ [e] = (before ++ d :: after) ++ [c] := by simpa using h
      exact .inl ⟨before, d, after, (List.append_inj' h rfl).1, hp⟩
  · rintro (⟨before, d, after, rfl, hp⟩ | hp)
    · exact ⟨before, d, after ++ [e], by simp, hp⟩
    · exact ⟨es, e, [], rfl, hp⟩

namespace Machine

variable {m : Machine} {id : Nat}

/-- The refresh `id` begins among the events that follow `m`. -/
def Begins (m : Machine) (id : Nat) : List Event → Prop :=
  Somewhere fun before e => e = .begin id ∧ (m.run before).Waits id

/-- The event makes all refreshes stale that have begun before `m`, coming after some others. -/
inductive Overtakes (m : Machine) (before : List Event) : Event → Prop
  | answer (id : Nat) (result : Except Failure Snapshot) (begun : m.Begins id before)
      (awaited : ((m.run before).number? id).isSome) : Overtakes m before (.answer id result)
  | minted (b : Block) : Overtakes m before (.minted (.ok b))
  | stop (running : (m.run before).running = true) : Overtakes m before .stop
  | drop (running : (m.run before).running = true) : Overtakes m before .drop

/-- All refreshes that have begun before `m` are stale after some more events. -/
def Overtaken (m : Machine) : List Event → Prop :=
  Somewhere m.Overtakes

/-- The number of a refresh under way tells whether it has begun since `m`. -/
theorem number?_run {es : List Event} {n : Nat} (h : (m.run es).number? id = some n) :
    (m.Begins id es ∧ m.issued < n) ∨ (¬ m.Begins id es ∧ m.number? id = some n) := by
  induction es using List.reverseRecOn generalizing n with
  | nil => exact .inr ⟨not_somewhere_nil _, h⟩
  | append_singleton es e ih =>
    rw [run_concat] at h
    simp only [Begins, somewhere_concat]
    rcases number?_step_eq_some h with ⟨he, hw, hn, -⟩ | ⟨hn, hb, -⟩
    · have := issued_le_run m es
      exact .inl ⟨.inr ⟨he, hw⟩, by omega⟩
    · rcases ih hn with ⟨hes, hlt⟩ | ⟨hes, hm⟩
      · exact .inl ⟨.inl hes, hlt⟩
      · exact .inr ⟨not_or.mpr ⟨hes, fun h => hb h.1 h.2⟩, hm⟩

/-- The number of another refresh reaches that of the last one begun before `m` just when it begins
later. -/
theorem issued_le_number_iff (hm : m.Sound) (hid : m.number? id = some m.issued) {es : List Event}
    {j n : Nat} (hne : j ≠ id) (hj : (m.run es).number? j = some n) :
    m.issued ≤ n ↔ m.Begins j es := by
  rcases number?_run hj with ⟨hb, hlt⟩ | ⟨hb, hn⟩
  · exact iff_of_true hlt.le hb
  · -- An older refresh with that number would be the awaited one itself.
    refine iff_of_false (fun hle => hne ?_) hb
    have hn' : n = m.issued := le_antisymm (hm.number_le hn) hle
    exact hm.number_inj hn (hn' ▸ hid)

/-- While the last refresh begun is awaited, an event brings its number or more just when it
overtakes it. -/
theorem issued_le_brings_iff (hm : m.Sound) (hid : m.number? id = some m.issued)
    (hpos : 0 < m.issued) {es : List Event} {e : Event}
    (h : ((m.run es).step e).1.number? id = some m.issued) :
    m.issued ≤ (m.run es).brings e ↔ m.Overtakes es e := by
  have hi := issued_le_run m es
  have stopped : m.issued ≤ (if (m.run es).running then (m.run es).issued + 1 else 0) ↔
      (m.run es).running = true := by
    split
    · exact iff_of_true (by omega) ‹_›
    · exact iff_of_false (by omega) ‹_›
  cases e with
  | answer j result =>
    have hne : j ≠ id := by
      rintro rfl
      rcases number?_step_eq_some h with ⟨he, -⟩ | ⟨-, -, ha⟩
      · cases he
      · exact ha result rfl
    cases hj : (m.run es).number? j with
    | none =>
      simp only [brings, hj, Option.getD_none]
      refine iff_of_false (by omega) fun ho => ?_
      cases ho with
      | answer _ _ begun awaited => simp [hj] at awaited
    | some n =>
      simp only [brings, hj, Option.getD_some]
      rw [issued_le_number_iff hm hid hne hj]
      constructor
      · exact fun begun => .answer j result begun (by simp [hj])
      · rintro ⟨_, _, begun, -⟩
        exact begun
  | minted result =>
    cases result with
    | ok b => exact iff_of_true (by simp only [brings]; omega) (.minted b)
    | error f => exact iff_of_false (by simp only [brings]; omega) (by rintro ⟨⟩)
  | stop =>
    refine stopped.trans ⟨.stop, fun ho => ?_⟩
    cases ho with
    | stop running => exact running
  | drop =>
    refine stopped.trans ⟨.drop, fun ho => ?_⟩
    cases ho with
    | drop running => exact running
  | _ => exact iff_of_false (by simp only [brings]; omega) (by rintro ⟨⟩)

/-- The last refresh begun is stale after some events just when they overtake it. -/
theorem issued_le_appliedSeq_iff (hm : m.Sound) (hid : m.number? id = some m.issued)
    (hq : m.state.appliedSeq < m.issued) {es : List Event}
    (h : (m.run es).number? id = some m.issued) :
    m.issued ≤ (m.run es).state.appliedSeq ↔ m.Overtaken es := by
  induction es using List.reverseRecOn with
  | nil => exact iff_of_false (by simpa using hq) (not_somewhere_nil _)
  | append_singleton es e ih =>
    rw [run_concat] at h
    have hes : (m.run es).number? id = some m.issued := by
      rcases number?_step_eq_some h with ⟨-, -, hn, -⟩ | ⟨hn, -⟩
      · have := issued_le_run m es
        omega
      · exact hn
    rw [run_concat, appliedSeq_step, le_max_iff, ih hes,
      issued_le_brings_iff hm hid (by omega) h, Overtaken, somewhere_concat]

end Machine

open Machine in
/-- The answer to a refresh is stale just when the refresh was overtaken since it began, and then
it changes nothing. -/
theorem answer_stale_iff_overtaken (before between : List Event) (id : Nat)
    (result : Except Failure Snapshot) (waits : (initial.run before).Waits id)
    (awaited : ((initial.run (before ++ .begin id :: between)).number? id).isSome) :
    let begun := initial.run (before ++ [.begin id])
    let last := initial.run (before ++ .begin id :: between)
    ∃ outcome, (last.step (.answer id result)).2 = .refreshed outcome ∧
      (outcome = .stale ↔ begun.Overtaken between) ∧
      (outcome = .stale → (last.step (.answer id result)).1.state = last.state) := by
  intro begun last
  have hs := sound_run_initial before
  have hb : begun = ((initial.run before).step (.begin id)).1 := run_concat _ _ _
  have hl : last = begun.run between := by rw [hb, ← run_cons, ← run_append]
  have hbs : begun.Sound := hb ▸ hs.step _
  obtain ⟨hi, hid, hq⟩ := step_begin_of_waits hs waits
  rw [← hb] at hi hid hq
  rw [← hi] at hid hq
  obtain ⟨n, hn⟩ := Option.isSome_iff_exists.mp awaited
  change last.number? id = some n at hn
  obtain rfl := (begun_of_number hbs hid).number?_run_eq hid (hl ▸ hn)
  have hiff := issued_le_appliedSeq_iff hbs hid hq (hl ▸ hn)
  rw [← hl] at hiff
  have hstale := last.state.absorb_snd_eq_stale_iff begun.issued result
  refine ⟨(last.state.absorb begun.issued result).2, ?_, hstale.trans hiff, fun h => ?_⟩
  · simp only [step, answer_of_number hn]
  · simp only [step, answer_of_number hn, State.absorb_stale (hstale.mp h)]

open Machine in
/-- A later refresh makes an earlier one stale even if its own answer is a failure. -/
theorem answer_stale_after_failure :
    (initial.run [.request, .request]).Waits 0 ∧
      ((initial.run [.request, .request, .begin 0, .begin 1,
        .answer 1 (.error (.transport ""))]).number? 0).isSome ∧
      ((initial.run [.request, .request, .begin 0, .begin 1,
        .answer 1 (.error (.transport ""))]).step (.answer 0 (.ok ⟨[], none, none⟩))).2 =
        .refreshed .stale := by
  have waits : (initial.run [.request, .request]).Waits 0 := ⟨_, rfl, rfl⟩
  refine ⟨waits, rfl, ?_⟩
  obtain ⟨outcome, reply, stale, -⟩ := answer_stale_iff_overtaken [.request, .request]
    [.begin 1, .answer 1 (.error (.transport ""))] 0 (.ok ⟨[], none, none⟩) waits rfl
  have begun : (initial.run [.request, .request, .begin 0]).Begins 1 [.begin 1] :=
    ⟨[], .begin 1, [], rfl, rfl, _, rfl, rfl⟩
  rw [stale.mpr ⟨[.begin 1], _, [], rfl, .answer 1 _ begun rfl⟩] at reply
  exact reply

end FeedExplorer.Feed
