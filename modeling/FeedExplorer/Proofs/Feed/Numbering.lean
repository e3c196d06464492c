import FeedExplorer.Proofs.Feed.Step
import Mathlib.Order.Nat

/-!
# Numbers of refreshes

Main statements: in every run no two refreshes under way have one number, none is above what has
been given out, and neither is the highest that has counted, which never falls.
-/

namespace FeedExplorer.Feed

namespace Machine

variable {m : Machine} {id : Nat}

/-- What holds of names and numbers in every run. -/
structure Sound (m : Machine) : Prop where
  id_lt : ∀ {id r}, m.find? id = some r → id < m.spawned
  number_le : ∀ {id n}, m.number? id = some n → n ≤ m.issued
  number_inj : ∀ {i j n}, m.number? i = some n → m.number? j = some n → i = j
  applied_le : m.state.appliedSeq ≤ m.issued

theorem sound_initial : initial.Sound where
  id_lt h := by simp [find?, initial] at h
  number_le h := by simp [number?, find?, initial] at h
  number_inj h := by simp [number?, find?, initial] at h
  applied_le := le_rfl

theorem Sound.brings_le (hm : m.Sound) (e : Event) : m.brings e ≤ (m.step e).1.issued := by
  have hi := (counters_le_step m e).1
  have stopped : (if m.running then m.issued + 1 else 0) ≤ m.stop.issued := by
    by_cases h : m.running <;> simp [stop, h]
  cases e with
  | stop => exact stopped
  | drop => exact stopped
  | answer id result =>
    cases h : m.number? id with
    | none => simp [brings, h]
    | some n =>
      have := hm.number_le h
      simp only [brings, h, Option.getD_some]
      omega
  | minted result => cases result <;> simp [brings, step, minted]
  | _ => simp [brings]

theorem Sound.step (hm : m.Sound) (e : Event) : (m.step e).1.Sound where
  id_lt {id r} h := by
    have hs := (counters_le_step m e).2
    cases change_step m e id with
    | kept after => exact lt_of_lt_of_le (hm.id_lt (after ▸ h)) hs
    | spawned origin after fresh counted => omega
    | begun r' before => exact lt_of_lt_of_le (hm.id_lt before) hs
    | answered result n before after => simp [after] at h
  number_le {id n} h := by
    have hi := (counters_le_step m e).1
    rcases number?_step_eq_some h with ⟨-, -, hn, hs⟩ | ⟨hn, -⟩
    · omega
    · exact (hm.number_le hn).trans hi
  number_inj {i j n} h h' := by
    rcases number?_step_eq_some h with ⟨he, -, hn, -⟩ | ⟨hn, -⟩ <;>
      rcases number?_step_eq_some h' with ⟨he', -, hn', -⟩ | ⟨hn', -⟩
    · simpa [he] using he'
    · have := hm.number_le hn'
      omega
    · have := hm.number_le hn
      omega
    · exact hm.number_inj hn hn'
  applied_le := by
    have := (counters_le_step m e).1
    have := hm.brings_le e
    have := hm.applied_le
    rw [appliedSeq_step]
    omega

theorem Sound.run (hm : m.Sound) (es : List Event) : (m.run es).Sound := by
  induction es generalizing m with
  | nil => exact hm
  | cons e es ih => exact ih (hm.step e)

/-- In every run names and numbers are sound. -/
theorem sound_run_initial (es : List Event) : (initial.run es).Sound :=
  sound_initial.run es

theorem issued_le_run (m : Machine) (es : List Event) : m.issued ≤ (m.run es).issued := by
  induction es generalizing m with
  | nil => exact le_rfl
  | cons e es ih => exact (counters_le_step m e).1.trans (ih _)

theorem appliedSeq_le_run (m : Machine) (es : List Event) :
    m.state.appliedSeq ≤ (m.run es).state.appliedSeq := by
  induction es generalizing m with
  | nil => exact le_rfl
  | cons e es ih =>
    refine le_trans ?_ (ih _)
    rw [appliedSeq_step]
    exact le_max_left _ _

/-- A refresh that begins takes a number above all that have counted. -/
theorem step_begin_of_waits (hm : m.Sound) (hw : m.Waits id) :
    (m.step (.begin id)).1.issued = m.issued + 1 ∧
      (m.step (.begin id)).1.number? id = some (m.issued + 1) ∧
      (m.step (.begin id)).1.state.appliedSeq < m.issued + 1 := by
  cases change_step m (.begin id) id with
  | kept after unbegun => exact absurd hw (unbegun rfl)
  | begun r before waits after event counted =>
    refine ⟨counted, by simp [number?, after], ?_⟩
    rw [appliedSeq_step]
    exact max_lt (Nat.lt_succ_of_le hm.applied_le) (Nat.succ_pos _)
  | spawned origin after fresh =>
    obtain ⟨r, hr, -⟩ := hw
    exact absurd fresh (hm.id_lt hr).ne
  | answered result n before after event => cases event

theorem begun_of_number {n : Nat} (hm : m.Sound) (h : m.number? id = some n) : m.Begun id := by
  obtain ⟨r, hr, -⟩ := Option.bind_eq_some_iff.mp h
  exact ⟨hm.id_lt hr, fun hw => by simp [number_eq_none_of_waits hw] at h⟩

theorem Begun.step (h : m.Begun id) (e : Event) : (m.step e).1.Begun id where
  id_lt := h.id_lt.trans_le (counters_le_step m e).2
  not_waits hw := by
    rcases waits_step hw with ⟨hw, -⟩ | hid
    · exact h.not_waits hw
    · exact h.id_lt.ne hid

theorem Begun.run (h : m.Begun id) (es : List Event) : (m.run es).Begun id := by
  induction es generalizing m with
  | nil => exact h
  | cons e es ih => exact ih (h.step e)

theorem Begun.number?_of_run (h : m.Begun id) {es : List Event} {n : Nat}
    (hn : (m.run es).number? id = some n) : m.number? id = some n := by
  induction es generalizing m with
  | nil => exact hn
  | cons e es ih =>
    rcases number?_step_eq_some (ih (h.step e) hn) with ⟨-, hw, -⟩ | ⟨hn, -⟩
    · exact absurd hw h.not_waits
    · exact hn

/-- A refresh keeps its number as long as it is under way. -/
theorem Begun.number?_run_eq (h : m.Begun id) {n k : Nat} (hn : m.number? id = some n)
    {es : List Event} (hk : (m.run es).number? id = some k) : k = n :=
  Option.some.inj ((h.number?_of_run hk).symm.trans hn)

end Machine

end FeedExplorer.Feed
