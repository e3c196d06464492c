import FeedExplorer.Proofs.Feed.Numbering

/-!
# The timer after its end

Whether the refreshes of a timer that has been ended can still change what the feed shows. Main
statement: one that had begun never does, whatever happens later, and one that had only been
spawned does when it begins later and is answered.
-/

namespace FeedExplorer.Feed

open Chain (Block Failure Query Snapshot)

/-- What the answers of a source change. -/
def State.contents (s : State) : List Block × Nat × UInt64 × Option String :=
  (s.blocks, s.totalBlocks, s.totalTokens, s.lastError)

namespace Machine

variable {m : Machine} {id : Nat}

/-- No answer to the refresh `id` changes what is shown, whenever it arrives after `m`. -/
def Silent (m : Machine) (id : Nat) : Prop :=
  ∀ es result, ((m.run es).step (.answer id result)).1.state.contents =
    (m.run es).state.contents

theorem silent_of_stale {n : Nat} (hb : m.Begun id) (hn : m.number? id = some n)
    (hle : n ≤ m.state.appliedSeq) : m.Silent id := by
  intro es result
  cases hk : (m.run es).number? id with
  | none => simp only [step, answer_of_number_eq_none hk]
  | some k =>
    have hkn := hb.number?_run_eq hn hk
    have hle : k ≤ (m.run es).state.appliedSeq := hkn ▸ hle.trans (appliedSeq_le_run m es)
    simp only [step, answer_of_number hk, State.absorb_stale hle]

/-- An answer that still counts can bring other blocks. -/
theorem exists_answer_changes {n : Nat} (hn : m.number? id = some n)
    (hlt : m.state.appliedSeq < n) :
    ∃ result, (m.step (.answer id result)).1.state.contents ≠ m.state.contents := by
  refine ⟨.ok ⟨default :: m.state.blocks, none, none⟩, fun h => ?_⟩
  have hblocks := congrArg Prod.fst h
  simp [step, answer_of_number hn, State.absorb, Nat.not_le.mpr hlt, State.contents,
    State.withBlocks] at hblocks

theorem not_silent_of_waits (hm : m.Sound) (hw : m.Waits id) : ¬ m.Silent id := by
  intro hs
  obtain ⟨-, hn, hlt⟩ := step_begin_of_waits hm hw
  obtain ⟨result, hr⟩ := exists_answer_changes hn hlt
  exact hr (hs [.begin id] result)

theorem step_end_of_running {e : Event} (he : e = .stop ∨ e = .drop) (hr : m.running = true) :
    (m.step e).1.state = m.state.fence (m.issued + 1) ∧ (m.step e).1.refreshes = m.refreshes := by
  rcases he with rfl | rfl <;> simp [step, stop, hr]

end Machine

open Machine in
/-- When a running timer is ended, a refresh under way is silent from then on just when it has
begun. -/
theorem silent_after_end_iff (before : List Event) (e : Event) (he : e = .stop ∨ e = .drop)
    (running : (initial.run before).running = true) (id : Nat) (r : Refresh)
    (spawned : (initial.run before).find? id = some r) :
    (initial.run (before ++ [e])).Silent id ↔ r.seq.isSome := by
  rw [run_concat]
  have hm := sound_run_initial before
  have hs := hm.step e
  obtain ⟨hstate, hrefreshes⟩ := step_end_of_running he running
  have hfind : ((initial.run before).step e).1.find? id = some r := by
    rw [find?, hrefreshes]
    exact spawned
  cases hseq : r.seq with
  | none => exact iff_of_false (not_silent_of_waits hs ⟨r, hfind, hseq⟩) (by simp)
  | some n =>
    refine iff_of_true ?_ rfl
    have hn : ((initial.run before).step e).1.number? id = some n := by
      rw [number?, hfind, Option.bind_some, hseq]
    have hbefore : (initial.run before).number? id = some n := by
      rw [number?, spawned, Option.bind_some, hseq]
    have hle := hm.number_le hbefore
    refine silent_of_stale (begun_of_number hs hn) hn ?_
    rw [hstate]
    exact hle.trans ((Nat.le_succ _).trans (State.le_appliedSeq_fence _ _))

open Machine in
/-- An answer that comes after the timer has been ended. -/
theorem silent_begun_before_stop :
    (initial.run [.start, .tick, .begin 0]).running = true ∧
      (initial.run [.start, .tick, .begin 0]).find? 0 = some ⟨0, .timer, some 1⟩ ∧
      (initial.run [.start, .tick, .begin 0, .stop]).Silent 0 :=
  ⟨rfl, rfl, (silent_after_end_iff [.start, .tick, .begin 0] .stop (.inl rfl) rfl 0
    ⟨0, .timer, some 1⟩ rfl).mpr rfl⟩

open Machine in
/-- A refresh that the timer has spawned, and that begins only after the timer has been ended,
brings its blocks all the same. -/
theorem not_silent_begun_after_stop :
    ¬ (initial.run [.start, .tick, .stop]).Silent 0 ∧
      ((initial.run [.start, .tick, .stop, .begin 0]).step
        (.answer 0 (.ok ⟨[default], none, none⟩))).1.state.blocks = [default] := by
  refine ⟨fun h => ?_, rfl⟩
  have hc := congrArg Prod.fst (h [.begin 0] (.ok ⟨[default], none, none⟩))
  exact List.cons_ne_nil _ _ hc

end FeedExplorer.Feed
