import FeedExplorer.Proofs.Feed.Numbering
import Mathlib.Algebra.GroupWithZero.Nat
import Mathlib.Data.List.DropRight

/-!
# History of a feed

The events of a run with what they gave back, and what the feed shows read off them. Main
statement: after every run the blocks, the totals, the last failure and the query are those that
the history tells, whatever the order of events.
-/

namespace FeedExplorer.Feed

open Chain (Block Failure Query Snapshot)
open scoped Number

/-- An event of a run and what it gave back. -/
structure Entry where
  event : Event
  reply : Reply

namespace Entry

/-- The snapshot of a refresh that was applied. -/
def applied? : Entry → Option Snapshot
  | ⟨.answer _ (.ok snapshot), .refreshed .applied⟩ => some snapshot
  | _ => none

/-- The block of a mint that succeeded. -/
def minted? : Entry → Option Block
  | ⟨.minted _, .minted b⟩ => b
  | _ => none

/-- What is left of a refresh that was applied or failed or of a mint that failed: the text of
the failure, if it is one. -/
def trouble? : Entry → Option (Option String)
  | ⟨.answer _ (.ok _), .refreshed .applied⟩ => some none
  | ⟨.answer _ (.error e), .refreshed .failed⟩ =>
    some (some ("Failed to fetch blocks: " ++ e.message))
  | ⟨.minted (.error e), _⟩ => some (some ("Failed to create block: " ++ e.message))
  | _ => none

def query? : Entry → Option Query
  | ⟨.search q, _⟩ => some q
  | _ => none

end Entry

/-- The entries of a run, the oldest first. -/
abbrev History := List Entry

namespace History

/-- The last of the things that some entries hold. -/
def latest {α : Type} (f : Entry → Option α) (h : History) : Option α :=
  (h.filterMap f).getLast?

/-- What came after the last refresh that was applied. -/
def sinceApplied (h : History) : History :=
  h.rtakeWhile (·.applied?.isNone)

/-- A block is put in front of those that have other hashes. -/
def addNew (blocks : List Block) (b : Block) : List Block :=
  if ∃ c ∈ blocks, c.hash = b.hash then blocks else b :: blocks

/-- The blocks of the last refresh that was applied, with those minted since. -/
def blocks (h : History) : List Block :=
  (h.sinceApplied.filterMap Entry.minted?).foldl addNew
    (((h.latest Entry.applied?).map (·.blocks)).getD [])

def lastError (h : History) : Option String :=
  (h.latest Entry.trouble?).join

def query (h : History) : Query :=
  (h.latest Entry.query?).getD ⟨""⟩

theorem latest_concat {α : Type} (f : Entry → Option α) (h : History) (x : Entry) :
    latest f (h ++ [x]) = (f x).or (latest f h) := by
  rw [latest, List.filterMap_append, List.getLast?_append]
  cases hx : f x <;> simp [latest, hx]

theorem blocks_concat_applied (h : History) (id : Nat) (s : Snapshot) :
    blocks (h ++ [⟨.answer id (.ok s), .refreshed .applied⟩]) = s.blocks := by
  simp [blocks, sinceApplied, latest_concat, Entry.applied?]

theorem blocks_concat {x : Entry} (hx : x.applied? = none) (h : History) :
    blocks (h ++ [x]) = x.minted?.toList.foldl addNew h.blocks := by
  rw [blocks, sinceApplied, List.rtakeWhile_concat_pos _ _ _ (by simp [hx]), latest_concat, hx,
    Option.none_or, List.filterMap_append, List.foldl_append]
  cases hm : x.minted? <;> simp [blocks, sinceApplied, hm]

/-- A state shows what a history tells. -/
structure Tells (h : History) (s : State) : Prop where
  blocks : s.blocks = h.blocks
  totalBlocks : s.totalBlocks = s.blocks.length
  totalTokens : s.totalTokens = Chain.totalTokens s.blocks
  lastError : s.lastError = h.lastError
  query : s.query = h.query

theorem tells_initial : Tells [] .initial where
  blocks := rfl
  totalBlocks := rfl
  totalTokens := rfl
  lastError := rfl
  query := rfl

variable {h : History} {s : State}

/-- An entry that tells nothing leaves all but the highest counted number. -/
theorem Tells.quiet (ht : h.Tells s) {x : Entry} (applied : x.applied? = none)
    (minted : x.minted? = none) (trouble : x.trouble? = none) (query : x.query? = none)
    (seq : Nat) : Tells (h ++ [x]) { s with appliedSeq := seq } where
  blocks := by rw [blocks_concat applied, minted]; exact ht.blocks
  totalBlocks := ht.totalBlocks
  totalTokens := ht.totalTokens
  lastError := by rw [History.lastError, latest_concat, trouble]; exact ht.lastError
  query := by rw [History.query, latest_concat, query]; exact ht.query

theorem Tells.search (ht : h.Tells s) (q : Query) :
    Tells (h ++ [⟨.search q, .nothing⟩]) { s with query := q } where
  blocks := by rw [blocks_concat rfl]; exact ht.blocks
  totalBlocks := ht.totalBlocks
  totalTokens := ht.totalTokens
  lastError := by rw [History.lastError, latest_concat]; exact ht.lastError
  query := by rw [History.query, latest_concat]; rfl

theorem Tells.absorb (ht : h.Tells s) (id seq : Nat) (result : Except Failure Snapshot) :
    Tells (h ++ [⟨.answer id result, .refreshed (s.absorb seq result).2⟩])
      (s.absorb seq result).1 := by
  by_cases hseq : seq ≤ s.appliedSeq
  · rw [State.absorb_stale hseq]
    refine ht.quiet ?_ rfl ?_ rfl s.appliedSeq <;> cases result <;> rfl
  · cases result with
    | ok snapshot =>
      simp only [State.absorb, if_neg hseq, State.withBlocks]
      exact {
        blocks := (blocks_concat_applied h id snapshot).symm
        totalBlocks := rfl
        totalTokens := rfl
        lastError := by rw [History.lastError, latest_concat]; rfl
        query := by rw [History.query, latest_concat]; exact ht.query }
    | error e =>
      simp only [State.absorb, if_neg hseq]
      exact {
        blocks := by rw [blocks_concat rfl]; exact ht.blocks
        totalBlocks := ht.totalBlocks
        totalTokens := ht.totalTokens
        lastError := by rw [History.lastError, latest_concat]; rfl
        query := by rw [History.query, latest_concat]; exact ht.query }

theorem addNew_eq (s : State) (b : Block) :
    addNew s.blocks b = if s.knows b.hash then s.blocks else b :: s.blocks := by
  simp [addNew, State.knows]

theorem Tells.insertMinted (ht : h.Tells s) (seq : Nat) (b : Block) :
    Tells (h ++ [⟨.minted (.ok b), .minted (some b)⟩]) (s.insertMinted seq b) := by
  have hb : History.blocks (h ++ [⟨.minted (.ok b), .minted (some b)⟩]) = addNew s.blocks b := by
    rw [blocks_concat rfl, ht.blocks]
    rfl
  rw [addNew_eq] at hb
  have he : History.lastError (h ++ [⟨.minted (.ok b), .minted (some b)⟩]) = s.lastError := by
    rw [History.lastError, latest_concat]
    exact ht.lastError.symm
  have hq : History.query (h ++ [⟨.minted (.ok b), .minted (some b)⟩]) = s.query := by
    rw [History.query, latest_concat]
    exact ht.query.symm
  by_cases hk : s.knows b.hash
  · rw [if_pos hk] at hb
    rw [State.insertMinted_eq, if_pos hk]
    exact ⟨hb.symm, ht.totalBlocks, ht.totalTokens, he.symm, hq.symm⟩
  · rw [if_neg hk] at hb
    rw [State.insertMinted_eq, if_neg hk]
    exact ⟨hb.symm, rfl, rfl, he.symm, hq.symm⟩

theorem Tells.noteMintFailure (ht : h.Tells s) (e : Failure) :
    Tells (h ++ [⟨.minted (.error e), .minted none⟩]) (s.noteMintFailure e) where
  blocks := by rw [blocks_concat rfl]; exact ht.blocks
  totalBlocks := ht.totalBlocks
  totalTokens := ht.totalTokens
  lastError := by rw [History.lastError, latest_concat]; rfl
  query := by rw [History.query, latest_concat]; exact ht.query

end History

namespace Machine

open History

/-- The entries that some events make, starting from `m`. -/
def history (m : Machine) : List Event → History
  | [] => []
  | e :: es => ⟨e, (m.step e).2⟩ :: (m.step e).1.history es

theorem history_concat (m : Machine) (es : List Event) (e : Event) :
    m.history (es ++ [e]) = m.history es ++ [⟨e, ((m.run es).step e).2⟩] := by
  induction es generalizing m with
  | nil => rfl
  | cons d es ih => simp [history, ih]

/-- One more event, and the state shows one more entry. -/
theorem tells_step {m : Machine} {h : History} (ht : h.Tells m.state) (e : Event) :
    Tells (h ++ [⟨e, (m.step e).2⟩]) (m.step e).1.state := by
  have he := effect_step m e
  generalize (m.step e).1.state = s, (m.step e).2 = reply at he ⊢
  cases he with
  | quiet unasked unminted uncounted =>
    refine ht.quiet ?_ ?_ ?_ ?_ m.state.appliedSeq
    · simp [Entry.applied?]
    · simp [Entry.minted?]
    · simp [Entry.trouble?, unminted]
    · simp [Entry.query?, unasked]
  | ended event running =>
    rcases event with rfl | rfl <;> exact ht.quiet rfl rfl rfl rfl _
  | searched q => exact ht.search q
  | @answered id n number result => exact ht.absorb id n result
  | minted b => exact ht.insertMinted _ b
  | mintFailed f => exact ht.noteMintFailure f

theorem tells_run (es : List Event) :
    (initial.history es).Tells (initial.run es).state := by
  induction es using List.reverseRecOn with
  | nil => exact tells_initial
  | append_singleton es e ih =>
    rw [history_concat, run_concat]
    exact tells_step ih e

end Machine

open Machine in
/-- What a feed shows after a run is what the history of the run tells. The tokens are counted in a
word of 64 bits; as long as the sum has room in it, they are the sum. -/
theorem state_eq_history (es : List Event) :
    let m := initial.run es
    let h := initial.history es
    m.state.blocks = h.blocks ∧
      m.state.totalBlocks = m.state.blocks.length ∧
      m.state.totalTokens.toNat = (m.state.blocks.map (·.tokens.toNat)).sum % UInt64.size ∧
      ((m.state.blocks.map (·.tokens.toNat)).sum < UInt64.size →
        m.state.totalTokens.toNat = (m.state.blocks.map (·.tokens.toNat)).sum) ∧
      m.state.lastError = h.lastError ∧
      m.state.query = h.query ∧
      m.state.appliedSeq ≤ m.issued ∧
      ∀ more, m.state.appliedSeq ≤ (m.run more).state.appliedSeq := by
  intro m h
  have ht : h.Tells m.state := tells_run es
  have htokens : m.state.totalTokens.toNat =
      (m.state.blocks.map (·.tokens.toNat)).sum % UInt64.size := by
    rw [ht.totalTokens]
    exact Chain.toNat_totalTokens m.state.blocks
  exact ⟨ht.blocks, ht.totalBlocks, htokens, fun hroom => htokens.trans (Nat.mod_eq_of_lt hroom),
    ht.lastError, ht.query, (sound_run_initial es).applied_le, appliedSeq_le_run m⟩

end FeedExplorer.Feed
