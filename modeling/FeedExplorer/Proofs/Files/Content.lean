import FeedExplorer.Files.Content
import FeedExplorer.Proofs.Files.Base64

/-!
# Contents behind the head of a data address

Main statement: contents that have been written are read, bare and behind the head of a data
address.
-/

namespace FeedExplorer.Files

section mark

variable {m : Char} {ms head : List Char}

theorem splitAtMark_eq_none {cs : List Char} (h : m ∉ cs) : splitAtMark (m :: ms) cs = none := by
  induction cs with
  | nil => rfl
  | cons c cs ih =>
    obtain ⟨hc, hcs⟩ := not_or.mp (List.mem_cons.not.mp h)
    rw [splitAtMark, if_neg (by simp [hc]), ih hcs]
    rfl

/-- A mark whose first character comes in it once does not begin before another one ends. -/
theorem not_prefix_append (hms : m ∉ ms) (hne : head ≠ []) (hhead : ¬ m :: ms <+: head)
    (tail : List Char) : ¬ m :: ms <+: head ++ m :: tail := by
  intro h
  rcases List.prefix_or_prefix_of_prefix h (List.prefix_append head (m :: tail)) with h' | ⟨x, hx⟩
  · exact hhead h'
  rw [← hx, List.prefix_append_right_inj] at h
  cases x with
  | nil =>
    rw [List.append_nil] at hx
    exact hhead (hx ▸ List.prefix_rfl)
  | cons c x =>
    obtain ⟨rfl, -⟩ := List.cons_prefix_cons.mp h
    obtain ⟨d, head, rfl⟩ := List.exists_cons_of_ne_nil hne
    obtain ⟨-, rfl⟩ := List.cons.inj hx
    exact hms (by simp)

theorem splitAtMark_append (hms : m ∉ ms) (hhead : ¬ m :: ms <:+: head) (rest : List Char) :
    splitAtMark (m :: ms) (head ++ (m :: ms ++ rest)) = some (head, rest) := by
  induction head with
  | nil =>
    have hfront : (m :: ms).isPrefixOf (m :: (ms ++ rest)) = true := by
      rw [List.isPrefixOf_iff_prefix]
      exact List.prefix_append (m :: ms) rest
    rw [List.nil_append, List.cons_append, splitAtMark, if_pos hfront]
    simp
  | cons c head ih =>
    have hfront : ¬ (m :: ms).isPrefixOf (c :: (head ++ (m :: ms ++ rest))) = true := by
      rw [List.isPrefixOf_iff_prefix]
      exact not_prefix_append hms (by simp) (fun h => hhead h.isInfix) (ms ++ rest)
    rw [List.cons_append, splitAtMark, if_neg hfront,
      ih fun h => hhead (List.infix_cons h)]
    rfl

theorem infix_of_infix_append {front : List Char} (hfront : m ∉ front)
    (h : m :: ms <:+: front ++ head) : m :: ms <:+: head := by
  induction front with
  | nil => exact h
  | cons c front ih =>
    obtain ⟨hc, hfront⟩ := not_or.mp (List.mem_cons.not.mp hfront)
    rcases List.infix_cons_iff.mp h with h | h
    · exact absurd (List.cons_prefix_cons.mp h).1 hc
    · exact ih hfront h

end mark

/-- Contents stand in a text bare, or behind the head of a data address with some type. -/
def Carries (data kept : String) : Prop :=
  data = kept ∨ ∃ mime : String, ¬ ";base64,".toList <:+: mime.toList ∧
    data = "data:" ++ mime ++ ";base64," ++ kept

theorem payloadChars_of_notMem {cs : List Char} (h : ';' ∉ cs) : payloadChars cs = cs := by
  have hnone : splitAtMark ";base64,".toList cs = none := splitAtMark_eq_none h
  rw [payloadChars, hnone]

theorem payloadChars_of_address {mime : List Char} (h : ¬ ";base64,".toList <:+: mime)
    (kept : List Char) :
    payloadChars ("data:".toList ++ mime ++ (";base64,".toList ++ kept)) = kept := by
  have hhead : ¬ ";base64,".toList <:+: "data:".toList ++ mime :=
    fun h' => h (infix_of_infix_append (by decide) h')
  have hsplit : splitAtMark ";base64,".toList
      ("data:".toList ++ mime ++ (";base64,".toList ++ kept)) =
        some ("data:".toList ++ mime, kept) :=
    splitAtMark_append (by decide) hhead kept
  rw [payloadChars, hsplit]
  simp

theorem decodeContent_of_carries {data : String} {bytes : List UInt8}
    (h : Carries data (Base64.encode bytes)) : decodeContent data = .ok bytes := by
  have hplain := Base64.plain_of_mem_encodeChars bytes
  have hpayload : payloadChars data.toList = Base64.encodeChars bytes := by
    rcases h with rfl | ⟨mime, hmime, rfl⟩
    · rw [Base64.encode, String.toList_ofList]
      exact payloadChars_of_notMem fun hmem => (hplain ';' hmem).2.1 rfl
    · have haddress := payloadChars_of_address hmime (Base64.encodeChars bytes)
      simpa [Base64.encode] using haddress
  have htrim : Text.trimChars (Base64.encodeChars bytes) = Base64.encodeChars bytes :=
    Text.trimChars_eq_self (fun c hc => (hplain c (List.mem_of_mem_head? hc)).2.2)
      fun c hc => (hplain c (List.mem_of_getLast? hc)).2.2
  rw [decodeContent, hpayload, htrim]
  exact Base64.decode_encode bytes

end FeedExplorer.Files
