import FeedExplorer.Feed.Machine
import Mathlib.Order.Nat

/-!
# Steps of a feed

What one event does to a feed: to each refresh under way, to the numbers given out, to the highest
number that has counted, and to the blocks. Later modules go by these statements and do not look
into the operations.
-/

namespace FeedExplorer.Feed

open Chain (Block Failure Query Snapshot)

theorem State.absorb_fst_appliedSeq (s : State) (seq : Nat) (answer : Except Failure Snapshot) :
    (s.absorb seq answer).1.appliedSeq = max s.appliedSeq seq := by
  by_cases h : seq ≤ s.appliedSeq
  · rw [absorb_stale h, Nat.max_eq_left h]
  · have hs : max s.appliedSeq seq = seq := by omega
    cases answer <;> simp [absorb, h, hs]

theorem State.absorb_snd_eq_stale_iff (s : State) (seq : Nat) (answer : Except Failure Snapshot) :
    (s.absorb seq answer).2 = .stale ↔ seq ≤ s.appliedSeq := by
  by_cases h : seq ≤ s.appliedSeq
  · simp [absorb_stale h, h]
  · cases answer <;> simp [absorb, h]

theorem State.insertMinted_eq (s : State) (seq : Nat) (b : Block) :
    s.insertMinted seq b = if s.knows b.hash then s.fence seq
      else (s.fence seq).withBlocks (b :: s.blocks) := rfl

theorem State.insertMinted_appliedSeq (s : State) (seq : Nat) (b : Block) :
    (s.insertMinted seq b).appliedSeq = max s.appliedSeq seq := by
  rw [insertMinted_eq]
  split <;> rfl

theorem State.insertMinted_blocks (s : State) (seq : Nat) (b : Block) :
    (s.insertMinted seq b).blocks = if s.knows b.hash then s.blocks else b :: s.blocks := by
  rw [insertMinted_eq]
  split <;> rfl

theorem State.absorb_fst_query (s : State) (seq : Nat) (answer : Except Failure Snapshot) :
    (s.absorb seq answer).1.query = s.query := by
  by_cases h : seq ≤ s.appliedSeq
  · rw [absorb_stale h]
  · cases answer <;> simp [absorb, h, withBlocks]

theorem State.insertMinted_query (s : State) (seq : Nat) (b : Block) :
    (s.insertMinted seq b).query = s.query := by
  rw [insertMinted_eq]
  split <;> rfl

namespace Machine

/-- The number of the refresh `id`, from when it begins until it is answered. -/
def number? (m : Machine) (id : Nat) : Option Nat :=
  (m.find? id).bind (·.seq)

/-- The refresh `id` has been spawned and has yet to begin. -/
def Waits (m : Machine) (id : Nat) : Prop :=
  ∃ r, m.find? id = some r ∧ r.seq = none

/-- The refresh `id` has begun; it may have been answered since. -/
structure Begun (m : Machine) (id : Nat) : Prop where
  id_lt : id < m.spawned
  not_waits : ¬ m.Waits id

/-- The number that an event brings: an answer that of its refresh, a minted block and the end of
a running timer one of their own. -/
def brings (m : Machine) : Event → Nat
  | .answer id _ => (m.number? id).getD 0
  | .minted (.ok _) => m.issued + 1
  | .stop | .drop => if m.running then m.issued + 1 else 0
  | _ => 0

/-! ## One event -/

variable {m : Machine} {id : Nat}

theorem id_eq_of_find? {r : Refresh} (h : m.find? id = some r) : r.id = id := by
  have := List.find?_some h
  simpa using this

theorem number_eq_none_of_waits (h : m.Waits id) : m.number? id = none := by
  obtain ⟨r, hr, hs⟩ := h
  simp [number?, hr, hs]

theorem begin_of_waits (h : m.Waits id) :
    m.begin id = { m with
      issued := m.issued + 1
      refreshes := m.refreshes.map fun r =>
        if r.id == id then { r with seq := some (m.issued + 1) } else r } := by
  obtain ⟨⟨i, origin, seq⟩, hr, rfl⟩ := h
  simp [begin, hr]

theorem begin_of_not_waits (h : ¬ m.Waits id) : m.begin id = m := by
  unfold begin
  split
  · exact absurd ⟨_, ‹_›, rfl⟩ h
  · rfl

theorem answer_of_number {n : Nat} (h : m.number? id = some n)
    (result : Except Failure Snapshot) :
    m.answer id result =
      ({ m with
          state := (m.state.absorb n result).1
          refreshes := m.refreshes.filter (·.id != id) },
        .refreshed (m.state.absorb n result).2) := by
  obtain ⟨⟨i, origin, seq⟩, hr, rfl⟩ := Option.bind_eq_some_iff.mp h
  simp [answer, hr]

theorem answer_of_number_eq_none (h : m.number? id = none) (result : Except Failure Snapshot) :
    m.answer id result = (m, .nothing) := by
  unfold answer
  split
  · rename_i hr
    simp [number?, hr] at h
  · rfl

theorem find?_spawn (m : Machine) (origin : Origin) (id : Nat) :
    (m.spawn origin).find? id = (m.find? id).or
      (if m.spawned = id then some { id := m.spawned, origin, seq := none } else none) := by
  simp only [find?, spawn, List.find?_append, List.find?_cons, List.find?_nil]
  by_cases h : m.spawned = id
  · simp [h]
  · simp [h, beq_eq_false_iff_ne.mpr h]

theorem find?_begin (h : m.Waits id) (j : Nat) :
    (m.begin id).find? j = (m.find? j).map fun r =>
      if r.id == id then { r with seq := some (m.issued + 1) } else r := by
  have hid : ((fun r : Refresh => r.id == j) ∘ fun r : Refresh =>
      if r.id == id then { r with seq := some (m.issued + 1) } else r) =
      fun r : Refresh => r.id == j := by
    funext r
    by_cases hr : r.id = id <;> simp [hr]
  simp only [begin_of_waits h, find?, List.find?_map, hid]

theorem find?_filter_ne (l : List Refresh) (i j : Nat) :
    (l.filter (·.id != i)).find? (·.id == j) =
      if i = j then none else l.find? (·.id == j) := by
  rw [List.find?_filter]
  by_cases h : i = j
  · subst h
    simp
  · rw [if_neg h]
    congr 1
    funext r
    by_cases hr : r.id = j
    · simp [hr, Ne.symm h]
    · simp [hr]

@[simp] theorem find?_stop (m : Machine) (j : Nat) : m.stop.find? j = m.find? j := by
  unfold stop
  split <;> rfl

@[simp] theorem find?_minted (m : Machine) (result : Except Failure Block) (j : Nat) :
    (m.minted result).1.find? j = m.find? j := by
  cases result <;> rfl

/-- What an event does to the refresh `id`. -/
inductive Change (m : Machine) (e : Event) (id : Nat) : Prop
  | kept (after : (m.step e).1.find? id = m.find? id) (unbegun : e = .begin id → ¬ m.Waits id)
      (unanswered : ∀ result, e = .answer id result → m.number? id = none)
  | spawned (origin : Origin) (after : (m.step e).1.find? id = some { id, origin, seq := none })
      (fresh : id = m.spawned) (counted : (m.step e).1.spawned = m.spawned + 1)
  | begun (r : Refresh) (before : m.find? id = some r) (waits : r.seq = none)
      (after : (m.step e).1.find? id = some { r with seq := some (m.issued + 1) })
      (event : e = .begin id) (counted : (m.step e).1.issued = m.issued + 1)
  | answered (result : Except Failure Snapshot) (n : Nat) (before : m.number? id = some n)
      (after : (m.step e).1.find? id = none) (event : e = .answer id result)

theorem change_spawn {e : Event} (origin : Origin) (he : (m.step e).1 = m.spawn origin)
    (hb : ∀ i, e ≠ .begin i) (ha : ∀ i result, e ≠ .answer i result) (id : Nat) :
    Change m e id := by
  have hf := find?_spawn m origin id
  cases hid : m.find? id with
  | some r =>
    refine .kept ?_ (absurd · (hb id)) fun result h => absurd h (ha id result)
    rw [he, hf, hid, Option.some_or]
  | none =>
    by_cases hs : m.spawned = id
    · refine .spawned origin ?_ hs.symm (by rw [he]; rfl)
      rw [he, hf, hid, Option.none_or, if_pos hs, hs]
    · refine .kept ?_ (absurd · (hb id)) fun result h => absurd h (ha id result)
      rw [he, hf, hid, Option.none_or, if_neg hs]

theorem change_begin (m : Machine) (i id : Nat) : Change m (.begin i) id := by
  have hs : (m.step (.begin i)).1 = m.begin i := rfl
  by_cases hw : m.Waits i
  · have hf := find?_begin hw id
    by_cases hi : i = id
    · subst hi
      have ⟨r, hr, hn⟩ := hw
      refine .begun r hr hn ?_ rfl (by rw [hs, begin_of_waits hw])
      simp [hs, hf, hr, id_eq_of_find? hr]
    · refine .kept ?_ (by simp [hi]) (by simp)
      rw [hs, hf]
      cases hr : m.find? id with
      | none => rfl
      | some r => simp [id_eq_of_find? hr, Ne.symm hi]
  · refine .kept (by rw [hs, begin_of_not_waits hw]) ?_ (by simp)
    intro he
    rw [Event.begin.injEq] at he
    exact he ▸ hw

theorem change_answer (m : Machine) (i : Nat) (result : Except Failure Snapshot) (id : Nat) :
    Change m (.answer i result) id := by
  have hs : (m.step (.answer i result)).1 = (m.answer i result).1 := rfl
  cases hn : m.number? i with
  | none =>
    refine .kept (by rw [hs, answer_of_number_eq_none hn]) (by simp) ?_
    intro result' he
    rw [Event.answer.injEq] at he
    exact he.1 ▸ hn
  | some n =>
    have hf : (m.step (.answer i result)).1.find? id = if i = id then none else m.find? id := by
      rw [hs, answer_of_number hn]
      exact find?_filter_ne m.refreshes i id
    by_cases hi : i = id
    · subst hi
      exact .answered result n hn (by rw [hf, if_pos rfl]) rfl
    · exact .kept (by rw [hf, if_neg hi]) (by simp) (by simp [hi])

theorem change_step (m : Machine) (e : Event) (id : Nat) : Change m e id := by
  cases e with
  | start => exact .kept rfl (by simp) (by simp)
  | stop => exact .kept (find?_stop m id) (by simp) (by simp)
  | drop => exact .kept (find?_stop m id) (by simp) (by simp)
  | search q => exact .kept rfl (by simp) (by simp)
  | tick =>
    by_cases hr : m.running
    · exact change_spawn .timer (by simp [step, hr]) (by simp) (by simp) id
    · exact .kept (by simp [step, hr]) (by simp) (by simp)
  | request => exact change_spawn .request rfl (by simp) (by simp) id
  | begin i => exact change_begin m i id
  | answer i result => exact change_answer m i result id
  | minted result => exact .kept (find?_minted m result id) (by simp) (by simp)

/-- A refresh under way has just begun, or it was under way and has not been answered. -/
theorem number?_step_eq_some {e : Event} {n : Nat} (h : (m.step e).1.number? id = some n) :
    (e = .begin id ∧ m.Waits id ∧ n = m.issued + 1 ∧ (m.step e).1.issued = m.issued + 1) ∨
      (m.number? id = some n ∧ (e = .begin id → ¬ m.Waits id) ∧
        ∀ result, e ≠ .answer id result) := by
  obtain ⟨r, hr, hn⟩ := Option.bind_eq_some_iff.mp h
  cases change_step m e id with
  | kept after unbegun unanswered =>
    have hm : m.number? id = some n := by rw [number?, ← after, hr, Option.bind_some, hn]
    refine .inr ⟨hm, unbegun, fun result he => ?_⟩
    simp [unanswered result he] at hm
  | spawned origin after fresh counted =>
    rw [after, Option.some.injEq] at hr
    simp [← hr] at hn
  | begun r' before waits after event counted =>
    rw [after, Option.some.injEq] at hr
    refine .inl ⟨event, ⟨r', before, waits⟩, ?_, counted⟩
    simpa [← hr] using hn.symm
  | answered result k before after event => simp [after] at hr

/-- A refresh that waits was waiting and has not begun, or it has just been spawned. -/
theorem waits_step {e : Event} (h : (m.step e).1.Waits id) :
    (m.Waits id ∧ e ≠ .begin id) ∨ id = m.spawned := by
  obtain ⟨r, hr, hn⟩ := h
  cases change_step m e id with
  | kept after unbegun unanswered =>
    have hw : m.Waits id := ⟨r, after ▸ hr, hn⟩
    exact .inl ⟨hw, fun he => unbegun he hw⟩
  | spawned origin after fresh counted => exact .inr fresh
  | begun r' before waits after event counted =>
    rw [after, Option.some.injEq] at hr
    simp [← hr] at hn
  | answered result k before after event => simp [after] at hr

theorem counters_le_step (m : Machine) (e : Event) :
    m.issued ≤ (m.step e).1.issued ∧ m.spawned ≤ (m.step e).1.spawned := by
  cases e with
  | start => exact ⟨le_rfl, le_rfl⟩
  | stop => by_cases h : m.running <;> simp [step, stop, h]
  | drop => by_cases h : m.running <;> simp [step, stop, h]
  | search q => exact ⟨le_rfl, le_rfl⟩
  | tick => by_cases h : m.running <;> simp [step, spawn, h]
  | request => simp [step, spawn]
  | begin id =>
    by_cases h : m.Waits id
    · simp [step, begin_of_waits h]
    · simp [step, begin_of_not_waits h]
  | answer id result =>
    cases h : m.number? id with
    | none => simp [step, answer_of_number_eq_none h]
    | some n => simp [step, answer_of_number h]
  | minted result => cases result <;> simp [step, minted]

/-- What is known after an event, and what the event gives back. -/
inductive Effect (m : Machine) : Event → State → Reply → Prop
  | quiet {e : Event} (unasked : ∀ q, e ≠ .search q) (unminted : ∀ result, e ≠ .minted result)
      (uncounted : m.brings e = 0) : Effect m e m.state .nothing
  | ended {e : Event} (event : e = .stop ∨ e = .drop) (running : m.running = true) :
      Effect m e (m.state.fence (m.issued + 1)) .nothing
  | searched (q : Query) : Effect m (.search q) { m.state with query := q } .nothing
  | answered {id n : Nat} (number : m.number? id = some n) (result : Except Failure Snapshot) :
      Effect m (.answer id result) (m.state.absorb n result).1
        (.refreshed (m.state.absorb n result).2)
  | minted (b : Block) :
      Effect m (.minted (.ok b)) (m.state.insertMinted (m.issued + 1) b) (.minted (some b))
  | mintFailed (f : Failure) :
      Effect m (.minted (.error f)) (m.state.noteMintFailure f) (.minted none)

theorem effect_end {e : Event} (he : e = .stop ∨ e = .drop) :
    Effect m e m.stop.state .nothing := by
  by_cases hr : m.running
  · simp only [stop, if_pos hr]
    exact .ended he hr
  · simp only [stop, if_neg hr]
    rcases he with rfl | rfl <;> exact .quiet (by simp) (by simp) (by simp [brings, hr])

theorem effect_step (m : Machine) (e : Event) : Effect m e (m.step e).1.state (m.step e).2 := by
  cases e with
  | start => exact .quiet (by simp) (by simp) rfl
  | stop => exact effect_end (.inl rfl)
  | drop => exact effect_end (.inr rfl)
  | search q => exact .searched q
  | tick =>
    have hs : (m.step .tick).1.state = m.state := by
      by_cases hr : m.running <;> simp [step, spawn, hr]
    exact hs ▸ .quiet (by simp) (by simp) rfl
  | request => exact .quiet (by simp) (by simp) rfl
  | begin id =>
    have hs : (m.step (.begin id)).1.state = m.state := by
      by_cases hw : m.Waits id
      · simp only [step, begin_of_waits hw]
      · simp only [step, begin_of_not_waits hw]
    exact hs ▸ .quiet (by simp) (by simp) rfl
  | answer id result =>
    cases hn : m.number? id with
    | none =>
      simp only [step, answer_of_number_eq_none hn]
      exact .quiet (by simp) (by simp) (by simp [brings, hn])
    | some n =>
      simp only [step, answer_of_number hn]
      exact .answered hn result
  | minted result =>
    cases result with
    | ok b => exact .minted b
    | error f => exact .mintFailed f

/-- An event raises the highest number that has counted to the one it brings. -/
theorem appliedSeq_step (m : Machine) (e : Event) :
    (m.step e).1.state.appliedSeq = max m.state.appliedSeq (m.brings e) := by
  have h := effect_step m e
  generalize (m.step e).1.state = s, (m.step e).2 = reply at h ⊢
  cases h with
  | quiet unasked unminted uncounted => rw [uncounted, Nat.max_zero]
  | ended event running => rcases event with rfl | rfl <;> simp [brings, running, State.fence]
  | searched q => exact (Nat.max_zero _).symm
  | answered number result =>
    simp only [State.absorb_fst_appliedSeq, brings, number, Option.getD_some]
  | minted b => exact State.insertMinted_appliedSeq _ _ _
  | mintFailed f => exact (Nat.max_zero _).symm

/-- What an event does to the blocks. -/
theorem blocks_step (m : Machine) (e : Event) :
    (m.step e).1.state.blocks = m.state.blocks ∨
    (∃ id n s, e = .answer id (.ok s) ∧ m.number? id = some n ∧ m.state.appliedSeq < n ∧
      (m.step e).1.state.blocks = s.blocks) ∨
    (∃ b, e = .minted (.ok b) ∧ m.state.knows b.hash = false ∧
      (m.step e).1.state.blocks = b :: m.state.blocks) := by
  have h := effect_step m e
  generalize (m.step e).1.state = s, (m.step e).2 = reply at h ⊢
  cases h with
  | quiet unasked unminted uncounted => exact .inl rfl
  | ended event running => exact .inl rfl
  | searched q => exact .inl rfl
  | @answered id n number result =>
    by_cases hn : n ≤ m.state.appliedSeq
    · rw [State.absorb_stale hn]
      exact .inl rfl
    · cases result with
      | error f => exact .inl (by simp only [State.absorb, if_neg hn])
      | ok s =>
        refine .inr (.inl ⟨id, n, s, rfl, number, by omega, ?_⟩)
        simp [State.absorb, hn, State.withBlocks]
  | minted b =>
    have hb := State.insertMinted_blocks m.state (m.issued + 1) b
    cases hk : m.state.knows b.hash with
    | false => exact .inr (.inr ⟨b, rfl, hk, by simpa [hk] using hb⟩)
    | true => exact .inl (by simpa [hk] using hb)
  | mintFailed f => exact .inl rfl

/-- Nothing but a search changes the query. -/
theorem query_step (m : Machine) {e : Event} (he : ∀ q, e ≠ .search q) :
    (m.step e).1.state.query = m.state.query := by
  have h := effect_step m e
  generalize (m.step e).1.state = s, (m.step e).2 = reply at h ⊢
  cases h with
  | quiet unasked unminted uncounted => rfl
  | ended event running => rfl
  | searched q => exact absurd rfl (he q)
  | answered number result => exact State.absorb_fst_query _ _ _
  | minted b => exact State.insertMinted_query _ _ _
  | mintFailed f => rfl

end Machine

end FeedExplorer.Feed
