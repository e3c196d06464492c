import FeedExplorer.View.Row
import Mathlib.Algebra.Order.Group.Nat
import Mathlib.Tactic.SplitIfs

/-!
# Columns of lists

Where the columns of a list begin, counted in characters. Main statement: the marks between the
columns stand below each other in all rows whose numbers have room, unless an address or a hash has
just twenty characters, one more than its column.
-/

namespace FeedExplorer.View

open Chain (Block Transaction)
open Screen (Line Span)

/-- How many characters of a line stand before each of its spans that equals `s`. -/
def starts (s : Span) : Line → List Nat
  | [] => []
  | t :: ts =>
    let behind := (starts s ts).map (t.text.length + ·)
    if t = s then 0 :: behind else behind

theorem starts_cons_self (s : Span) (ts : Line) :
    starts s (s :: ts) = 0 :: (starts s ts).map (s.text.length + ·) :=
  if_pos rfl

theorem starts_cons_of_ne {s t : Span} (h : t ≠ s) (ts : Line) :
    starts s (t :: ts) = (starts s ts).map (t.text.length + ·) :=
  if_neg h

/-- The mark between two addresses. -/
def arrow : Span :=
  inked .darkGray " → "

/-- What the header has in its place. -/
def arrowRoom : Span :=
  ⟨"   ", .plain⟩

/-! ## Widths of fields -/

/-- A text of twenty characters is not shortened, although its column has nineteen. -/
def overhang (s : String) : Nat :=
  if s.length = 20 then 1 else 0

theorem overhang_eq_zero_iff {s : String} : overhang s = 0 ↔ s.length ≠ 20 := by
  simp [overhang]

theorem length_shortened (s : String) :
    (shortened s).length = if 20 < s.length then addressWidth else s.length := by
  rw [shortened, String.length_toList]
  split
  · next hlong =>
    simp only [String.length_ofList, List.length_append, List.length_take, List.length_drop,
      List.length_cons, List.length_nil, String.length_toList, addressWidth]
    omega
  · rfl

theorem max_length_shortened (s : String) :
    max addressWidth (shortened s).length = addressWidth + overhang s := by
  rw [length_shortened, addressWidth, overhang]
  split_ifs <;> omega

theorem length_address (s : String) : (address s).length = addressWidth + overhang s := by
  rw [address, Text.length_alignRight, max_length_shortened]

theorem length_toString_le {n k : Nat} (hk : 0 < k) (h : n < 10 ^ k) :
    (toString n).length ≤ k :=
  (Nat.length_repr_le_iff hk).mpr h

theorem length_alignRight_of_le {width : Nat} {s : String} (h : s.length ≤ width) :
    (Text.alignRight width s).length = width := by
  rw [Text.length_alignRight, Nat.max_eq_left h]

theorem length_alignLeft_of_le {width : Nat} {s : String} (h : s.length ≤ width) :
    (Text.alignLeft width s).length = width := by
  rw [Text.length_alignLeft, Nat.max_eq_left h]

/-! ## Rows -/

section Marks

variable {c d : Screen.Color} {mark text : String}

theorem starts_cons_of_color (h : c ≠ d) (ts : Line) :
    starts (inked d mark) (inked c text :: ts) =
      (starts (inked d mark) ts).map (text.length + ·) := by
  apply starts_cons_of_ne
  intro heq
  simp only [inked, Screen.Style.ofInk, Span.mk.injEq, Screen.Style.mk.injEq, Option.some.injEq,
    and_true] at heq
  exact h heq.2

theorem starts_cons_of_text (h : text ≠ mark) (ts : Line) :
    starts (inked c mark) (inked c text :: ts) =
      (starts (inked c mark) ts).map (text.length + ·) := by
  apply starts_cons_of_ne
  intro heq
  exact h (congrArg Span.text heq)

end Marks

section Transaction

variable {index : Nat} {t : Transaction}

theorem length_indexField (hindex : index < 1000) :
    (Text.alignRight 3 (toString index) ++ " ").length = 4 := by
  rw [String.length_append, length_alignRight_of_le (length_toString_le (by decide) hindex)]
  rfl

theorem indexField_ne (hindex : index < 1000) (mark : String) (hmark : mark.length = 3) :
    Text.alignRight 3 (toString index) ++ " " ≠ mark := by
  rintro rfl
  rw [length_indexField hindex] at hmark
  exact absurd hmark (by decide)

theorem starts_arrow_transactionLine (hindex : index < 1000) :
    starts arrow (transactionLine index t) = [23 + overhang t.sender] := by
  have hfirst := indexField_ne hindex " → " (by decide)
  simp (disch := decide) only [transactionLine, arrow, separator, starts_cons_of_text hfirst,
    starts_cons_of_color, starts_cons_of_text, starts_cons_self]
  simp only [starts, List.map_cons, List.map_nil, length_indexField hindex, length_address,
    addressWidth, List.cons.injEq, and_true]
  omega

theorem starts_separator_transactionLine (hindex : index < 1000)
    (hamount : (amount t.amount).length ≤ 12) :
    starts separator (transactionLine index t) =
      [45 + overhang t.sender + overhang t.receiver,
        60 + overhang t.sender + overhang t.receiver] := by
  have hfirst := indexField_ne hindex " │ " (by decide)
  have hmarks : " → ".length = 3 ∧ " │ ".length = 3 := by decide
  simp (disch := decide) only [transactionLine, separator, starts_cons_of_text hfirst,
    starts_cons_of_color, starts_cons_of_text, starts_cons_self]
  simp only [starts, inked, List.map_cons, List.map_nil, length_indexField hindex, length_address,
    length_alignRight_of_le hamount, hmarks, addressWidth, List.cons.injEq, and_true]
  omega

end Transaction

/-- The numbers of a block have room in their columns. -/
structure HasRoom (b : Block) : Prop where
  index : b.index.toNat < 10 ^ 7
  transactions : b.transactions.length < 10 ^ 4
  tokens : b.tokens.toNat < 10 ^ 8

theorem starts_blockLine {b : Block} (h : HasRoom b) (now : Nat) :
    starts separator (blockLine now b) =
      [27 + overhang b.hash, 38 + overhang b.hash, 56 + overhang b.hash] := by
  have hindex : ("#" ++ Text.alignLeft 7 (toString b.index.toNat)).length = 8 := by
    rw [String.length_append, length_alignLeft_of_le (length_toString_le (by decide) h.index)]
    rfl
  have hcount : (Text.alignRight 4 (toString b.transactions.length) ++ " txs").length = 8 := by
    rw [String.length_append,
      length_alignRight_of_le (length_toString_le (by decide) h.transactions)]
    rfl
  have htokens : (Text.alignRight 8 (toString b.tokens.toNat) ++ " tokens").length = 15 := by
    rw [String.length_append, length_alignRight_of_le (length_toString_le (by decide) h.tokens)]
    rfl
  have hhash : (Text.alignLeft addressWidth (shortened b.hash)).length = 19 + overhang b.hash := by
    rw [Text.length_alignLeft, max_length_shortened]
    rfl
  have hmark : " │ ".length = 3 := by decide
  simp (disch := decide) only [blockLine, separator, starts_cons_of_color, starts_cons_self]
  simp only [starts, inked, List.map_cons, List.map_nil, hindex, hcount, htokens, hmark,
    hhash, List.cons.injEq, and_true]
  omega

/-- An address field has nineteen characters unless the address has twenty. Of a transaction whose
index and amount have room, the arrow stands below the gap of the header just when the sender has
not twenty characters, and the two marks behind it below those of the header just when neither
address has. The marks of two blocks whose numbers have room stand below each other just when both
hashes have twenty characters or neither has. -/
theorem columns_line_up_iff (index : Nat) (t : Transaction) (now : Nat) (a b : Block)
    (hindex : index < 1000) (hamount : (amount t.amount).length ≤ 12) (ha : HasRoom a)
    (hb : HasRoom b) :
    (∀ s, (address s).length = addressWidth ↔ s.length ≠ 20) ∧
    (starts arrow (transactionLine index t) = starts arrowRoom transactionHeader ↔
      t.sender.length ≠ 20) ∧
    (starts separator (transactionLine index t) = starts separator transactionHeader ↔
      t.sender.length ≠ 20 ∧ t.receiver.length ≠ 20) ∧
    (starts separator (blockLine now a) = starts separator (blockLine now b) ↔
      (a.hash.length = 20 ↔ b.hash.length = 20)) := by
  refine ⟨fun s => ?_, ?_, ?_, ?_⟩
  · rw [length_address, ← overhang_eq_zero_iff]
    omega
  · have hheader : starts arrowRoom transactionHeader = [23] := by decide
    rw [starts_arrow_transactionLine hindex, hheader, List.cons.injEq, ← overhang_eq_zero_iff]
    simp
  · have hheader : starts separator transactionHeader = [45, 60] := by decide
    rw [starts_separator_transactionLine hindex hamount, hheader, ← overhang_eq_zero_iff,
      ← overhang_eq_zero_iff]
    simp only [List.cons.injEq, and_true]
    omega
  · rw [starts_blockLine ha, starts_blockLine hb]
    simp only [List.cons.injEq, and_true, overhang]
    split_ifs <;> omega

/-- A transfer of five tokens for a small fee. -/
def transferOf (sender receiver : String) : Transaction :=
  { sender, receiver, amount := ⟨0x4014000000000000⟩, gasCost := ⟨0x3EB92A737110E454⟩ }

/-- A block of which only the hash is told. -/
def blockOf (hash : String) : Block :=
  { (default : Block) with hash }

/-- Long addresses and hashes are shortened and short ones are padded. -/
theorem columns_line_up_of_long :
    let long := "0x742d35Cc6634C0532925a3b844Bc9e7595f8fE31"
    let t := transferOf long "bob"
    t.sender.length = 42 ∧ (amount t.amount).length = 1 ∧
      starts arrow (transactionLine 999 t) = starts arrowRoom transactionHeader ∧
      starts separator (transactionLine 999 t) = starts separator transactionHeader ∧
      HasRoom (blockOf long) ∧ HasRoom (blockOf "h") ∧
      starts separator (blockLine 0 (blockOf long)) =
        starts separator (blockLine 0 (blockOf "h")) := by
  intro long t
  have hamount : (amount t.amount).length = 1 := by decide +kernel
  have hroom (hash : String) : HasRoom (blockOf hash) := by
    constructor
    all_goals exact Nat.pow_pos (by decide)
  obtain ⟨-, harrow, hmarks, hblocks⟩ := columns_line_up_iff 999 t 0 (blockOf long) (blockOf "h")
    (by decide) (by omega) (hroom long) (hroom "h")
  exact ⟨by decide, hamount, harrow.mpr (by decide), hmarks.mpr (by decide), hroom long,
    hroom "h", hblocks.mpr (by decide)⟩

/-- A sender of twenty characters pushes the columns behind it to the right. -/
theorem columns_pushed_by_twenty :
    let t := transferOf "abcdefghijklmnopqrst" "bob"
    t.sender.length = 20 ∧ (address t.sender).length = 20 ∧ (amount t.amount).length ≤ 12 ∧
      (amount t.gasCost).length ≤ 12 ∧
      starts arrowRoom transactionHeader = [23] ∧ starts arrow (transactionLine 1 t) = [24] ∧
      starts separator transactionHeader = [45, 60] ∧
      starts separator (transactionLine 1 t) = [46, 61] := by
  decide +kernel

end FeedExplorer.View
