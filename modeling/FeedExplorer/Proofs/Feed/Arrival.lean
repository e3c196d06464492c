import FeedExplorer.Proofs.Feed.Overtaking

/-!
# Order of arrival

Refreshes that overlap, while nothing is minted and the timer is not ended. Main statement: if the
one that begins last is answered with blocks, these are shown in the end, in whatever order the
answers arrive and whatever the others bring.
-/

namespace FeedExplorer.Feed

open Chain (Block Failure Query Snapshot)
open scoped Number

/-- What goes on while a feed is refreshed and nothing else happens to it. -/
def Event.OfRefresh : Event → Prop
  | .start | .tick | .request | .begin _ | .answer _ _ => True
  | .stop | .drop | .search _ | .minted _ => False

namespace Machine

variable {m : Machine} {id : Nat}

/-! ## What a run gives -/

/-- The things that the events of a run give, each to the machine that it finds. -/
def collect {α : Type} (f : Machine → Event → Option α) (m : Machine) : List Event → List α
  | [] => []
  | e :: es => (f m e).toList ++ (m.step e).1.collect f es

section Collect

variable {α : Type} {f : Machine → Event → Option α}

theorem collect_append (m : Machine) (es fs : List Event) :
    m.collect f (es ++ fs) = m.collect f es ++ (m.run es).collect f fs := by
  induction es generalizing m with
  | nil => rfl
  | cons e es ih => simp [collect, ih]

theorem collect_concat (m : Machine) (es : List Event) (e : Event) :
    m.collect f (es ++ [e]) = m.collect f es ++ (f (m.run es) e).toList := by
  rw [collect_append]
  simp [collect]

theorem mem_collect {x : α} {es : List Event} :
    x ∈ m.collect f es ↔ Somewhere (fun before e => f (m.run before) e = some x) es := by
  induction es using List.reverseRecOn with
  | nil => exact iff_of_false List.not_mem_nil (not_somewhere_nil _)
  | append_singleton es e ih =>
    rw [collect_concat, List.mem_append, ih, somewhere_concat, Option.mem_toList]

/-- The last thing that is given divides a run. -/
theorem exists_of_collect_eq_concat {xs : List α} {x : α} {es : List Event}
    (h : m.collect f es = xs ++ [x]) :
    ∃ before e after, es = before ++ e :: after ∧ f (m.run before) e = some x ∧
      (m.run (before ++ [e])).collect f after = [] := by
  induction es using List.reverseRecOn with
  | nil => simp [collect] at h
  | append_singleton es e ih =>
    rw [collect_concat] at h
    cases hx : f (m.run es) e with
    | some y =>
      rw [hx, Option.toList_some] at h
      obtain ⟨-, hy⟩ := List.append_inj' h rfl
      rw [List.singleton_inj] at hy
      exact ⟨es, e, [], rfl, hy ▸ hx, rfl⟩
    | none =>
      rw [hx, Option.toList_none, List.append_nil] at h
      obtain ⟨before, d, after, rfl, hd, hafter⟩ := ih h
      refine ⟨before, d, after ++ [e], by simp, hd, ?_⟩
      rw [collect_concat, hafter, ← run_append, List.append_assoc, List.singleton_append, hx]
      rfl

end Collect

/-! ## Refreshes that begin and answers that arrive -/

instance (m : Machine) (id : Nat) : Decidable (m.Waits id) :=
  decidable_of_iff ((m.find? id).any (·.seq.isNone) = true) (by simp [Waits, Option.any_eq_true])

/-- The refresh that an event lets begin, with the number that it takes. -/
def begins? (m : Machine) : Event → Option (Nat × Nat)
  | .begin id => if m.Waits id then some (id, m.issued + 1) else none
  | _ => none

/-- The refresh that an event answers, with the answer. -/
def answers? (m : Machine) : Event → Option (Nat × Except Failure Snapshot)
  | .answer id result => if (m.number? id).isSome then some (id, result) else none
  | _ => none

/-- The refreshes that begin in a run, the first one first, with their numbers. -/
def begun (m : Machine) (es : List Event) : List (Nat × Nat) :=
  m.collect begins? es

/-- The answers to refreshes under way in a run, the first one first. -/
def answered (m : Machine) (es : List Event) : List (Nat × Except Failure Snapshot) :=
  m.collect answers? es

theorem begins?_eq_some_iff {e : Event} {n : Nat} :
    m.begins? e = some (id, n) ↔ e = .begin id ∧ m.Waits id ∧ n = m.issued + 1 := by
  cases e with
  | «begin» i =>
    simp only [begins?, Option.ite_none_right_eq_some, Option.some.injEq, Prod.mk.injEq,
      Event.begin.injEq]
    grind
  | _ => simp [begins?]

theorem answers?_eq_some_iff {e : Event} {result : Except Failure Snapshot} :
    m.answers? e = some (id, result) ↔ e = .answer id result ∧ (m.number? id).isSome = true := by
  cases e with
  | answer i r =>
    simp only [answers?, Option.ite_none_right_eq_some, Option.some.injEq, Prod.mk.injEq,
      Event.answer.injEq]
    grind
  | _ => simp [answers?]

theorem not_begins_of_begun_eq_nil {es : List Event} (h : m.begun es = []) (j : Nat) :
    ¬ m.Begins j es := by
  rintro ⟨before, e, after, rfl, he, hw⟩
  have hj : (j, (m.run before).issued + 1) ∈ m.begun (before ++ e :: after) :=
    mem_collect.mpr ⟨before, e, after, rfl, begins?_eq_some_iff.mpr ⟨he, hw, rfl⟩⟩
  rw [h] at hj
  exact List.not_mem_nil hj

/-- A refresh has begun before it is answered. -/
theorem begun_run_of_mem_answered (hm : m.Sound) {es : List Event}
    {result : Except Failure Snapshot} (h : (id, result) ∈ m.answered es) :
    (m.run es).Begun id := by
  obtain ⟨before, e, after, rfl, he⟩ := mem_collect.mp h
  obtain ⟨-, hn⟩ := answers?_eq_some_iff.mp he
  obtain ⟨n, hn⟩ := Option.isSome_iff_exists.mp hn
  rw [run_append]
  exact (begun_of_number (hm.run before) hn).run _

/-! ## Nothing but refreshes -/

theorem query_run_of_refresh {es : List Event} (only : ∀ e ∈ es, e.OfRefresh) :
    (m.run es).state.query = m.state.query := by
  induction es generalizing m with
  | nil => rfl
  | cons e es ih =>
    rw [List.forall_mem_cons] at only
    rw [run_cons, ih only.2]
    apply query_step
    rintro q rfl
    exact only.1

theorem issued_step_of_refresh {e : Event} (he : e.OfRefresh) (hb : m.begins? e = none) :
    (m.step e).1.issued = m.issued := by
  cases e with
  | start => rfl
  | tick => by_cases h : m.running <;> simp [step, spawn, h]
  | request => rfl
  | «begin» id =>
    have hw : ¬ m.Waits id := by
      intro hw
      simp [begins?, hw] at hb
    simp only [step, begin_of_not_waits hw]
  | answer id result =>
    cases hn : m.number? id with
    | none => simp only [step, answer_of_number_eq_none hn]
    | some n => simp only [step, answer_of_number hn]
  | stop => exact he.elim
  | drop => exact he.elim
  | search q => exact he.elim
  | minted result => exact he.elim

/-- When the last number given out has counted, no answer under way does. -/
theorem state_step_of_outrun (hm : m.Sound) (hle : m.issued ≤ m.state.appliedSeq) {e : Event}
    (he : e.OfRefresh) : (m.step e).1.state = m.state := by
  have h := effect_step m e
  generalize (m.step e).1.state = s, (m.step e).2 = reply at h ⊢
  cases h with
  | quiet unasked unminted uncounted => rfl
  | ended event running => rcases event with rfl | rfl <;> exact he.elim
  | searched q => exact he.elim
  | answered number result => rw [State.absorb_stale ((hm.number_le number).trans hle)]
  | minted b => exact he.elim
  | mintFailed f => exact he.elim

theorem begun_cons_eq_nil {e : Event} {es : List Event} (h : m.begun (e :: es) = []) :
    m.begins? e = none ∧ (m.step e).1.begun es = [] := by
  rw [begun, collect, List.append_eq_nil_iff, Option.toList_eq_nil_iff] at h
  exact h

theorem issued_run_of_refresh {es : List Event} (only : ∀ e ∈ es, e.OfRefresh)
    (hb : m.begun es = []) : (m.run es).issued = m.issued := by
  induction es generalizing m with
  | nil => rfl
  | cons e es ih =>
    rw [List.forall_mem_cons] at only
    obtain ⟨he, hes⟩ := begun_cons_eq_nil hb
    rw [run_cons, ih only.2 hes, issued_step_of_refresh only.1 he]

theorem state_run_of_outrun (hm : m.Sound) (hle : m.issued ≤ m.state.appliedSeq) {es : List Event}
    (only : ∀ e ∈ es, e.OfRefresh) (hb : m.begun es = []) : (m.run es).state = m.state := by
  induction es generalizing m with
  | nil => rfl
  | cons e es ih =>
    rw [List.forall_mem_cons] at only
    obtain ⟨he, hes⟩ := begun_cons_eq_nil hb
    have hs := state_step_of_outrun hm hle only.1
    have hi := issued_step_of_refresh only.1 he
    rw [run_cons, ih (hm.step e) (by rw [hs, hi]; exact hle) only.2 hes, hs]

/-- Refreshes overtake only those that have begun before them. -/
theorem not_overtaken_of_refresh {es : List Event} (only : ∀ e ∈ es, e.OfRefresh)
    (hb : m.begun es = []) : ¬ m.Overtaken es := by
  rintro ⟨before, e, after, rfl, ho⟩
  have he : e.OfRefresh := only e (by simp)
  cases ho with
  | answer j result begins awaited =>
    rw [begun, collect_append, List.append_eq_nil_iff] at hb
    exact not_begins_of_begun_eq_nil hb.1 j begins
  | minted b => exact he
  | stop running => exact he
  | drop running => exact he

/-- The answer to the refresh that has begun last counts, and nothing after it does. -/
theorem state_run_of_last (hm : m.Sound) {n : Nat} (hi : m.issued = n)
    (hid : m.number? id = some n) (hq : m.state.appliedSeq < n) {es : List Event}
    (only : ∀ e ∈ es, e.OfRefresh) (hb : m.begun es = []) {s : Snapshot}
    (hs : (id, .ok s) ∈ m.answered es) :
    (m.run es).state = { m.state.withBlocks s.blocks with lastError := none, appliedSeq := n } := by
  subst hi
  obtain ⟨between, e, rest, rfl, he⟩ := mem_collect.mp hs
  obtain ⟨rfl, hn⟩ := answers?_eq_some_iff.mp he
  obtain ⟨k, hk⟩ := Option.isSome_iff_exists.mp hn
  obtain rfl := (begun_of_number hm hid).number?_run_eq hid hk
  rw [List.forall_mem_append, List.forall_mem_cons] at only
  obtain ⟨hbetween, hanswer, hrest⟩ := only
  rw [begun, collect_append, List.append_eq_nil_iff] at hb
  obtain ⟨hb, hb'⟩ := hb
  have hlt : (m.run between).state.appliedSeq < m.issued := by
    have hiff := issued_le_appliedSeq_iff hm hid hq hk
    exact not_le.mp fun hle => not_overtaken_of_refresh hbetween hb (hiff.mp hle)
  -- the answer arrives
  have hstate : ((m.run between).step (.answer id (.ok s))).1.state =
      { (m.run between).state.withBlocks s.blocks with
        lastError := none, appliedSeq := m.issued } := by
    simp only [step, answer_of_number hk, State.absorb, if_neg (not_le.mpr hlt)]
  obtain ⟨hnone, hb'⟩ := begun_cons_eq_nil hb'
  have hissued := issued_step_of_refresh hanswer hnone
  rw [issued_run_of_refresh hbetween hb] at hissued
  have hquery : (m.run between).state.query = m.state.query := query_run_of_refresh hbetween
  rw [run_append, run_cons, state_run_of_outrun ((hm.run between).step _) _ hrest hb', hstate]
  · simp only [State.withBlocks, hquery]
  · rw [hissued, hstate]

end Machine

open Machine in
/-- From any machine that a run can lead to: whatever the others bring and in whatever order the
answers arrive, when the refresh that begins last is answered with a snapshot, the feed shows this
snapshot in the end. Its tokens are counted in a word of 64 bits. -/
theorem last_begun_wins {m : Machine} (hm : m.Sound) {es : List Event}
    (only : ∀ e ∈ es, e.OfRefresh) {earlier : List (Nat × Nat)} {last n : Nat}
    (order : m.begun es = earlier ++ [(last, n)])
    {answers : List (Nat × Except Failure Snapshot)} (arrived : (m.answered es).Perm answers)
    {s : Snapshot} (snapshot : (last, .ok s) ∈ answers) :
    (m.run es).state =
      { blocks := s.blocks
        totalBlocks := s.blocks.length
        totalTokens := Chain.totalTokens s.blocks
        query := m.state.query
        lastError := none
        appliedSeq := n } ∧
      (m.run es).state.totalTokens.toNat = (s.blocks.map (·.tokens.toNat)).sum % UInt64.size := by
  obtain ⟨before, e, after, rfl, he, hafter⟩ := exists_of_collect_eq_concat order
  obtain ⟨rfl, hw, rfl⟩ := begins?_eq_some_iff.mp he
  have hbefore := hm.run before
  obtain ⟨hissued, hid, hq⟩ := step_begin_of_waits hbefore hw
  rw [List.forall_mem_append, List.forall_mem_cons] at only
  obtain ⟨honly, hbegin, honly'⟩ := only
  -- the answer comes after the beginning
  have hs : (last, .ok s) ∈ ((m.run before).step (.begin last)).1.answered after := by
    have hs := arrived.mem_iff.mpr snapshot
    rw [answered, collect_append, List.mem_append] at hs
    rcases hs with hs | hs
    · exact absurd hw (begun_run_of_mem_answered hm hs).not_waits
    · exact hs
  rw [run_concat] at hafter
  have hquery : ((m.run before).step (.begin last)).1.state.query = m.state.query := by
    rw [query_step _ (by simp), query_run_of_refresh honly]
  rw [run_append, run_cons, state_run_of_last (hbefore.step _) hissued hid hq honly' hafter hs]
  refine ⟨by simp only [State.withBlocks, hquery], ?_⟩
  exact Chain.toNat_totalTokens s.blocks

open Machine in
/-- Of three refreshes the last is answered first; then come other blocks and a failure. -/
theorem last_begun_wins_of_three :
    let old : Snapshot := ⟨[default, default], none, none⟩
    let new : Snapshot := ⟨[default], some 7, none⟩
    let m : Machine := initial.run [.search ⟨"x"⟩, .minted (.error (.transport "")), .start]
    let es : List Event := [.request, .tick, .request, .begin 1, .start, .begin 0, .begin 2,
      .answer 2 (.ok new), .answer 0 (.ok old), .answer 1 (.error (.transport ""))]
    let answers : List (Nat × Except Failure Snapshot) :=
      [(0, .ok old), (1, .error (.transport "")), (2, .ok new)]
    m.Sound ∧ (∀ e ∈ es, e.OfRefresh) ∧ m.begun es = [(1, 1), (0, 2)] ++ [(2, 3)] ∧
      (m.answered es).Perm answers ∧ (2, .ok new) ∈ answers ∧
      (m.run es).state = ⟨[default], 1, 0, ⟨"x"⟩, none, 3⟩ := by
  intro old new m es answers
  have hm : m.Sound := sound_run_initial _
  have only : ∀ e ∈ es, e.OfRefresh := by simp [es, Event.OfRefresh]
  have order : m.begun es = [(1, 1), (0, 2)] ++ [(2, 3)] := rfl
  have arrived : (m.answered es).Perm answers := by
    have arrival : m.answered es =
        [(2, .ok new), (0, .ok old), (1, .error (.transport ""))] := by
      subst es m new old
      rfl
    rw [arrival]
    exact (List.perm_append_singleton _ [_, _]).symm
  have snapshot : (2, .ok new) ∈ answers := by simp [answers]
  refine ⟨hm, only, order, arrived, snapshot, ?_⟩
  exact (last_begun_wins hm only order arrived snapshot).1

end FeedExplorer.Feed
