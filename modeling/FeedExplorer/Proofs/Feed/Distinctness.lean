import FeedExplorer.Proofs.Feed.Step

/-!
# Blocks are shown once

Main statement: if no snapshot of the source holds two blocks with one hash, the feed never shows
two of them, whatever is minted and in whatever order mints and refreshes are answered.
-/

namespace FeedExplorer.Feed

open Chain (Block Query Snapshot)

/-- No two blocks have the same hash. -/
def Distinct (blocks : List Block) : Prop :=
  blocks.Pairwise fun b c => b.hash ≠ c.hash

theorem Distinct.filter {blocks : List Block} (h : Distinct blocks) (q : Query) :
    Distinct (q.filter blocks) :=
  h.sublist (q.filter_sublist blocks)

theorem distinct_cons_of_not_known {s : State} {b : Block} (hb : s.knows b.hash = false)
    (h : Distinct s.blocks) : Distinct (b :: s.blocks) := by
  refine List.pairwise_cons.mpr ⟨fun c hc hbc => ?_, h⟩
  rw [State.knows, List.any_eq_false] at hb
  exact hb c hc (beq_iff_eq.mpr hbc.symm)

/-- No snapshot among the answers holds two blocks with one hash. -/
def DeliversDistinct (es : List Event) : Prop :=
  ∀ id s, .answer id (.ok s) ∈ es → Distinct s.blocks

namespace Machine

variable {m : Machine}

theorem distinct_step (h : Distinct m.state.blocks) {e : Event}
    (he : ∀ id s, e = .answer id (.ok s) → Distinct s.blocks) :
    Distinct (m.step e).1.state.blocks := by
  rcases blocks_step m e with hb | ⟨id, n, s, rfl, -, -, hb⟩ | ⟨b, rfl, hk, hb⟩
  · exact hb ▸ h
  · exact hb ▸ he id s rfl
  · exact hb ▸ distinct_cons_of_not_known hk h

theorem distinct_run (h : Distinct m.state.blocks) {es : List Event} (hes : DeliversDistinct es) :
    Distinct (m.run es).state.blocks := by
  induction es generalizing m with
  | nil => exact h
  | cons e es ih =>
    apply ih
    · apply distinct_step h
      rintro id s rfl
      exact hes id s List.mem_cons_self
    · intro id s hs
      exact hes id s (List.mem_cons_of_mem e hs)

end Machine

open Machine in
/-- No two blocks that a feed shows have the same hash, in the whole list and in what any query
leaves of it. -/
theorem shown_blocks_distinct (es : List Event) (delivered : DeliversDistinct es) :
    let s := (initial.run es).state
    Distinct s.blocks ∧ Distinct s.filtered ∧ ∀ q : Query, Distinct (q.filter s.blocks) := by
  intro s
  have hinitial : Distinct initial.state.blocks := List.Pairwise.nil
  have h : Distinct s.blocks := distinct_run hinitial delivered
  exact ⟨h, h.filter s.query, h.filter⟩

open Machine in
/-- A block is minted twice while a refresh that brings it is under way, and once more after. -/
theorem shown_blocks_distinct_racing :
    let b : Block := default
    let c : Block := { b with hash := "c" }
    let es : List Event := [.request, .begin 0, .minted (.ok b), .minted (.ok b), .request,
      .begin 1, .answer 0 (.ok ⟨[c], none, none⟩), .answer 1 (.ok ⟨[c, b], none, none⟩),
      .minted (.ok { b with index := 1 })]
    DeliversDistinct es ∧ (initial.run es).state.blocks = [c, b] ∧
      Distinct (initial.run es).state.blocks := by
  intro b c es
  have delivered : DeliversDistinct es := by
    intro id s hs
    simp only [es, List.mem_cons, List.not_mem_nil, reduceCtorEq, Event.answer.injEq,
      Except.ok.injEq, false_or, or_false] at hs
    rcases hs with ⟨-, rfl⟩ | ⟨-, rfl⟩
    · exact List.pairwise_singleton _ _
    · exact List.pairwise_pair.mpr (by decide)
  exact ⟨delivered, by decide, (shown_blocks_distinct es delivered).1⟩

end FeedExplorer.Feed
