import FeedExplorer.Feed.Machine
import Mathlib.Algebra.Order.BigOperators.Group.List
import Mathlib.Algebra.Order.Group.Nat
import Mathlib.Data.List.Infix

/-!
# Narrower queries

A query is narrower than another one if its text holds the text of the other. Main statement: it
picks some of the blocks that the other one picks, in the same order, so that typing on in a search
brings no block back.
-/

namespace FeedExplorer.Chain

theorem occursIn_iff {part whole : List Char} : occursIn part whole = true ↔ part <:+: whole := by
  induction whole with
  | nil => rw [occursIn, List.isEmpty_iff, List.infix_nil]
  | cons c cs ih =>
    rw [occursIn, Bool.or_eq_true, List.isPrefixOf_iff_prefix, ih, List.infix_cons_iff]

namespace Query

/-- The text of the query stands in one of the two addresses. -/
def Finds (q : Query) (t : Transaction) : Prop :=
  q.text.toList <:+: t.sender.toList ∨ q.text.toList <:+: t.receiver.toList

instance (q : Query) (t : Transaction) : Decidable (q.Finds t) :=
  inferInstanceAs (Decidable (_ ∨ _))

variable {q q' : Query}

theorem isEmpty_iff : q.isEmpty = true ↔ q.text = "" := by
  rw [isEmpty, List.isEmpty_iff, String.toList_eq_nil_iff]

theorem matchesTransaction_iff {t : Transaction} : q.matchesTransaction t = true ↔ q.Finds t := by
  rw [matchesTransaction, Bool.or_eq_true, occursIn_iff, occursIn_iff, Finds]

theorem matchesBlock_iff {b : Block} :
    q.matchesBlock b = true ↔ q.text = "" ∨ ∃ t ∈ b.transactions, q.Finds t := by
  simp only [matchesBlock, Bool.or_eq_true, isEmpty_iff, List.any_eq_true, matchesTransaction_iff]

theorem Finds.wider (h : q.text.toList <:+: q'.text.toList) {t : Transaction} (ht : q'.Finds t) :
    q.Finds t :=
  ht.imp h.trans h.trans

/-- Only the empty query is wider than the empty one. -/
theorem matchesBlock_wider (h : q.text.toList <:+: q'.text.toList) {b : Block}
    (hb : q'.matchesBlock b = true) : q.matchesBlock b = true := by
  rw [matchesBlock_iff] at hb ⊢
  rcases hb with hempty | ⟨t, ht, hfinds⟩
  · rw [hempty] at h
    exact .inl (String.toList_eq_nil_iff.mp (List.infix_nil.mp h))
  · exact .inr ⟨t, ht, hfinds.wider h⟩

theorem filter_sublist_filter (h : q.text.toList <:+: q'.text.toList) (blocks : List Block) :
    (q'.filter blocks).Sublist (q.filter blocks) :=
  List.monotone_filter_right blocks fun _ => matchesBlock_wider h

theorem transactionCount_le (h : q.text.toList <:+: q'.text.toList) (blocks : List Block) :
    q'.transactionCount blocks ≤ q.transactionCount blocks :=
  ((filter_sublist_filter h blocks).map _).sum_le_sum fun _ _ => Nat.zero_le _

theorem filter_filter_eq (h : q.text.toList <:+: q'.text.toList) (blocks : List Block) :
    q.filter (q'.filter blocks) = q'.filter blocks :=
  List.filter_eq_self.mpr fun _ hb => matchesBlock_wider h (mem_filter.mp hb).2

theorem filter_eq_of_empty (h : q.text = "") (blocks : List Block) : q.filter blocks = blocks :=
  List.filter_eq_self.mpr fun _ _ => matchesBlock_iff.mpr (.inl h)

theorem filter_eq_of_not_empty (h : q.text ≠ "") (blocks : List Block) :
    q.filter blocks = blocks.filter fun b => ∃ t ∈ b.transactions, q.Finds t := by
  refine List.filter_congr fun b _ => ?_
  rw [Bool.eq_iff_iff, matchesBlock_iff, decide_eq_true_eq]
  exact or_iff_right h

/-- A narrower query picks blocks that the wider one picks, in their order, with no more
transactions; picking again with the wider one leaves out none. So it is in a feed that is searched
for the one and for the other. The empty query picks every block, and any other one those with a
transfer in which it is found. -/
theorem narrower_picks_fewer :
    (∀ q q' : Query, q.text.toList <:+: q'.text.toList → ∀ blocks : List Block,
      (q'.filter blocks).Sublist (q.filter blocks) ∧
        q'.transactionCount blocks ≤ q.transactionCount blocks ∧
        q.filter (q'.filter blocks) = q'.filter blocks ∧
        ∀ m : Feed.Machine, m.state.blocks = blocks →
          let wide := (m.step (.search q)).1.state
          let narrow := (m.step (.search q')).1.state
          narrow.filtered.Sublist wide.filtered ∧
            narrow.filteredTransactionCount ≤ wide.filteredTransactionCount) ∧
    ∀ (q : Query) (blocks : List Block), (q.text = "" → q.filter blocks = blocks) ∧
      (q.text ≠ "" →
        q.filter blocks = blocks.filter fun b => ∃ t ∈ b.transactions, q.Finds t) := by
  refine ⟨fun q q' h blocks => ⟨filter_sublist_filter h blocks, transactionCount_le h blocks,
    filter_filter_eq h blocks, ?_⟩, fun q blocks => ⟨fun hempty => ?_, fun hempty => ?_⟩⟩
  · rintro m rfl
    exact ⟨filter_sublist_filter h m.state.blocks, transactionCount_le h m.state.blocks⟩
  · exact filter_eq_of_empty hempty blocks
  · exact filter_eq_of_not_empty hempty blocks

/-- A block without transfers, and two with one of them. -/
def fewTransfers : List Block :=
  let transfer (sender receiver : String) : Transaction :=
    { (default : Transaction) with sender, receiver }
  [default, { (default : Block) with transactions := [transfer "alice" "bob"] },
    { (default : Block) with transactions := [transfer "carol" "dave"] }]

theorem narrower_picks_fewer_of_three :
    "a".toList <:+: "al".toList ∧ (Query.mk "al").filter fewTransfers = [fewTransfers[1]] ∧
      ((Query.mk "al").filter fewTransfers).Sublist ((Query.mk "a").filter fewTransfers) ∧
      (Query.mk "al").transactionCount fewTransfers ≤
        (Query.mk "a").transactionCount fewTransfers := by
  have h : "a".toList <:+: "al".toList := by decide
  obtain ⟨hsublist, hcount, -⟩ := narrower_picks_fewer.1 ⟨"a"⟩ ⟨"al"⟩ h fewTransfers
  exact ⟨h, by decide +kernel, hsublist, hcount⟩

end Query

end FeedExplorer.Chain
