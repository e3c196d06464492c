import FeedExplorer.Proofs.Feed.Numbering
import Mathlib.Logic.Function.Basic

/-!
# Minted blocks stay

A feed together with the server that answers it. The server only ever adds to its list, lists a
block before it says that it was minted, and answers a refresh with the list as it was at some
moment since the refresh began. Main statement: a minted block is shown from then on, whichever
refreshes are answered later and in whatever order.
-/

namespace FeedExplorer.Feed

open Chain (Block Failure Query Snapshot)

structure World where
  feed : Machine
  /-- The list of the server. -/
  chain : List Block
  /-- The list that the server has picked as the answer to a refresh. -/
  picked : Nat → Option (List Block)

inductive Move where
  /-- The list of the server becomes another. -/
  | grow (chain : List Block)
  /-- The server picks its list as the answer to the refresh `id`. -/
  | pick (id : Nat)
  /-- Something happens to the feed. -/
  | feed (e : Event)

/-- A block with this hash is in a list. -/
def Lists (blocks : List Block) (hash : String) : Prop :=
  ∃ b ∈ blocks, b.hash = hash

namespace World

/-- A new feed, and a server with a list of its own. -/
def initial (chain : List Block) : World :=
  { feed := .initial, chain, picked := fun _ => none }

/-- What the server may do. It can refuse any call. -/
def Admits (w : World) : Move → Prop
  | .grow chain => w.chain ⊆ chain
  | .pick id => (w.feed.number? id).isSome
  | .feed (.answer id (.ok s)) => w.picked id = some s.blocks
  | .feed (.minted (.ok b)) => b ∈ w.chain
  | .feed _ => True

def step (w : World) : Move → World
  | .grow chain => { w with chain }
  | .pick id => { w with picked := Function.update w.picked id (some w.chain) }
  | .feed e => { w with feed := (w.feed.step e).1 }

/-- The world after some moves in turn. -/
def run (w : World) (moves : List Move) : World :=
  moves.foldl step w

/-- The server keeps to what it may do in each of some moves. -/
def AdmitsAll (w : World) : List Move → Prop
  | [] => True
  | mv :: moves => w.Admits mv ∧ (w.step mv).AdmitsAll moves

theorem admitsAll_append (w : World) (moves more : List Move) :
    w.AdmitsAll (moves ++ more) ↔ w.AdmitsAll moves ∧ (w.run moves).AdmitsAll more := by
  induction moves generalizing w with
  | nil => simp [AdmitsAll, run]
  | cons mv moves ih => simp [AdmitsAll, run, ih, and_assoc]

/-- Lists have been picked for refreshes that have begun, and for no others. -/
structure Sound (w : World) : Prop where
  feed : w.feed.Sound
  begun : ∀ {id blocks}, w.picked id = some blocks → w.feed.Begun id

theorem sound_initial (chain : List Block) : (initial chain).Sound where
  feed := Machine.sound_initial
  begun h := by simp [initial] at h

variable {w : World}

theorem Sound.step (hw : w.Sound) {mv : Move} (h : w.Admits mv) : (w.step mv).Sound where
  feed := by
    cases mv with
    | grow chain => exact hw.feed
    | pick id => exact hw.feed
    | feed e => exact hw.feed.step e
  begun {j blocks} hj := by
    cases mv with
    | grow chain => exact hw.begun hj
    | pick id =>
      by_cases hid : j = id
      · subst hid
        obtain ⟨n, hn⟩ := Option.isSome_iff_exists.mp h
        exact Machine.begun_of_number hw.feed hn
      · simp only [World.step, Function.update_of_ne hid] at hj
        exact hw.begun hj
    | feed e => exact (hw.begun hj).step e

theorem Sound.run (hw : w.Sound) {moves : List Move} (h : w.AdmitsAll moves) :
    (w.run moves).Sound := by
  induction moves generalizing w with
  | nil => exact hw
  | cons mv moves ih => exact ih (hw.step h.1) h.2

/-- A block with this hash is shown, and every answer that can still count has one. -/
structure Keeps (w : World) (hash : String) : Prop where
  shown : Lists w.feed.state.blocks hash
  listed : Lists w.chain hash
  picked : ∀ {id n blocks}, w.feed.number? id = some n → w.feed.state.appliedSeq < n →
    w.picked id = some blocks → Lists blocks hash

/-- A block that has just been minted is kept: no refresh under way can count any more. -/
theorem keeps_of_minted (hw : w.Sound) {b : Block} (hb : b ∈ w.chain) :
    (w.step (.feed (.minted (.ok b)))).Keeps b.hash where
  shown := by
    change Lists (w.feed.state.insertMinted (w.feed.issued + 1) b).blocks b.hash
    rw [State.insertMinted_blocks]
    split
    · rename_i hk
      obtain ⟨c, hc, hh⟩ := List.any_eq_true.mp hk
      exact ⟨c, hc, by simpa using hh⟩
    · exact ⟨b, List.mem_cons_self, rfl⟩
  listed := ⟨b, hb, rfl⟩
  picked {id n blocks} hn hlt _ := by
    have hn : w.feed.number? id = some n := by
      rcases Machine.number?_step_eq_some hn with ⟨he, -⟩ | ⟨hn, -⟩
      · cases he
      · exact hn
    have hle := hw.feed.number_le hn
    simp only [World.step, Machine.appliedSeq_step, Machine.brings] at hlt
    omega

theorem Keeps.step {hash : String} (hk : w.Keeps hash) (hw : w.Sound) {mv : Move}
    (h : w.Admits mv) : (w.step mv).Keeps hash where
  shown := by
    cases mv with
    | grow chain => exact hk.shown
    | pick id => exact hk.shown
    | feed e =>
      change Lists (w.feed.step e).1.state.blocks hash
      rcases Machine.blocks_step w.feed e with hb | ⟨id, n, s, rfl, hn, hlt, hb⟩ | ⟨b, rfl, -, hb⟩
      · exact hb ▸ hk.shown
      · exact hb ▸ hk.picked hn hlt h
      · obtain ⟨c, hc, hh⟩ := hk.shown
        exact hb ▸ ⟨c, List.mem_cons_of_mem _ hc, hh⟩
  listed := by
    cases mv with
    | grow chain =>
      obtain ⟨c, hc, hh⟩ := hk.listed
      exact ⟨c, h hc, hh⟩
    | pick id => exact hk.listed
    | feed e => exact hk.listed
  picked {j n blocks} hn hlt hj := by
    cases mv with
    | grow chain => exact hk.picked hn hlt hj
    | pick id =>
      by_cases hid : j = id
      · simp only [World.step, hid, Function.update_self, Option.some.injEq] at hj
        exact hj ▸ hk.listed
      · simp only [World.step, Function.update_of_ne hid] at hj
        exact hk.picked hn hlt hj
    | feed e =>
      rcases Machine.number?_step_eq_some hn with ⟨-, hwaits, -⟩ | ⟨hn, -⟩
      · exact absurd hwaits (hw.begun hj).not_waits
      · simp only [World.step, Machine.appliedSeq_step] at hlt
        exact hk.picked hn (lt_of_le_of_lt (Nat.le_max_left _ _) hlt) hj

theorem Keeps.run {hash : String} (hk : w.Keeps hash) (hw : w.Sound) {moves : List Move}
    (h : w.AdmitsAll moves) : (w.run moves).Keeps hash := by
  induction moves generalizing w with
  | nil => exact hk
  | cons mv moves ih => exact ih (hk.step hw h.1) (hw.step h.1) h.2

end World

open World in
/-- A minted block is shown ever after. -/
theorem minted_never_lost (chain : List Block) (before after : List Move) (b : Block)
    (h : (initial chain).AdmitsAll (before ++ .feed (.minted (.ok b)) :: after)) :
    Lists ((initial chain).run
      (before ++ .feed (.minted (.ok b)) :: after)).feed.state.blocks b.hash := by
  rw [admitsAll_append] at h
  obtain ⟨hbefore, hb, hafter⟩ := h
  have hw := (World.sound_initial chain).run hbefore
  have hk := (keeps_of_minted hw hb).run (hw.step hb) hafter
  rw [World.run, List.foldl_append]
  exact hk.shown

open World in
/-- One refresh is asked before the mint and one after it, and both are answered late. -/
theorem minted_kept_among_refreshes :
    let old : Block := { (default : Block) with hash := "old" }
    let new : Block := { (default : Block) with hash := "new" }
    let before : List Move := [.feed .request, .feed (.begin 0), .pick 0, .grow [new, old]]
    let after : List Move := [.feed .request, .feed (.begin 1), .pick 1,
      .feed (.answer 0 (.ok ⟨[old], none, none⟩)), .feed (.answer 1 (.ok ⟨[new, old], none, none⟩))]
    (initial [old]).AdmitsAll (before ++ .feed (.minted (.ok new)) :: after) ∧
      Lists ((initial [old]).run
        (before ++ .feed (.minted (.ok new)) :: after)).feed.state.blocks "new" := by
  intro old new before after
  have h : (initial [old]).AdmitsAll (before ++ .feed (.minted (.ok new)) :: after) :=
    ⟨trivial, trivial, rfl, List.subset_cons_self _ _, List.mem_cons_self, trivial, trivial, rfl,
      rfl, rfl, trivial⟩
  exact ⟨h, minted_never_lost [old] before after new h⟩

end FeedExplorer.Feed
