import FeedExplorer.Proofs.Files.Canonical
import FeedExplorer.Proofs.Files.Content
import FeedExplorer.Proofs.Text.Trimming
import FeedExplorer.Source.Client

/-!
# The payload of a text

What stands behind the head of a data address, or all of a text that is none. Main statements:
contents are read of exactly those texts whose payload, without the blanks around it, is the
written form of some bytes; and blanks around a text do no harm, except in front of a data address.
-/

namespace FeedExplorer.Files

open Source (RpcClient)
open Text (AllBlank)

/-! ## Cutting at a mark -/

/-- A mark stands behind `head` and nowhere before. -/
structure FirstCut (mark whole head rest : String) : Prop where
  whole_eq : whole = head ++ mark ++ rest
  first : ∀ head' rest', whole = head' ++ mark ++ rest' → head.length ≤ head'.length

section cut

variable {mark cs head rest : List Char}

/-- A mark that is not at the front stands behind the first character. -/
theorem exists_cons_of_not_front {c : Char} (hfront : ¬ mark.isPrefixOf (c :: cs) = true)
    (h : c :: cs = head ++ mark ++ rest) :
    ∃ before, head = c :: before ∧ cs = before ++ mark ++ rest := by
  cases head with
  | nil =>
    rw [List.nil_append] at h
    exact absurd (List.isPrefixOf_iff_prefix.mpr ⟨rest, h.symm⟩) hfront
  | cons c' before =>
    obtain ⟨rfl, hcs⟩ := List.cons.inj h
    exact ⟨before, rfl, hcs⟩

theorem splitAtMark_eq_some_iff :
    splitAtMark mark cs = some (head, rest) ↔ cs = head ++ mark ++ rest ∧
      ∀ head' rest', cs = head' ++ mark ++ rest' → head.length ≤ head'.length := by
  induction cs generalizing head with
  | nil =>
    rw [splitAtMark]
    simp only [List.nil_eq, List.append_eq_nil_iff]
    split
    · next hmark =>
      have hnil := List.isEmpty_iff.mp hmark
      constructor
      · rintro ⟨⟩
        exact ⟨⟨⟨rfl, hnil⟩, rfl⟩, fun _ _ _ => Nat.zero_le _⟩
      · rintro ⟨⟨⟨rfl, -⟩, rfl⟩, -⟩
        rfl
    · next hmark =>
      refine iff_of_false (fun h => ?_) fun h => hmark (List.isEmpty_iff.mpr h.1.1.2)
      cases h
  | cons c cs ih =>
    rw [splitAtMark]
    split
    · next hfront =>
      obtain ⟨tail, htail⟩ := List.isPrefixOf_iff_prefix.mp hfront
      rw [← htail, List.drop_left]
      constructor
      · rintro ⟨⟩
        exact ⟨rfl, fun _ _ _ => Nat.zero_le _⟩
      · rintro ⟨hwhole, hfirst⟩
        obtain rfl := List.length_eq_zero_iff.mp (Nat.le_zero.mp (hfirst [] tail rfl))
        rw [List.nil_append] at hwhole
        rw [List.append_cancel_left hwhole]
    · next hfront =>
      constructor
      · intro h
        obtain ⟨⟨before, after⟩, hsplit, heq⟩ := Option.map_eq_some_iff.mp h
        cases heq
        obtain ⟨rfl, hfirst⟩ := ih.mp hsplit
        refine ⟨rfl, fun head' rest' h' => ?_⟩
        obtain ⟨head'', rfl, hcs⟩ := exists_cons_of_not_front hfront h'
        exact Nat.succ_le_succ (hfirst head'' rest' hcs)
      · rintro ⟨hwhole, hfirst⟩
        obtain ⟨before, rfl, hcs⟩ := exists_cons_of_not_front hfront hwhole
        have hsplit := ih.mpr ⟨hcs, fun head' rest' h' =>
          Nat.le_of_succ_le_succ (hfirst (c :: head') rest' (congrArg (c :: ·) h'))⟩
        rw [hsplit]
        rfl

theorem firstCut_iff {mark whole head rest : String} :
    FirstCut mark whole head rest ↔
      splitAtMark mark.toList whole.toList = some (head.toList, rest.toList) := by
  have hwhole (head' rest' : String) : whole = head' ++ mark ++ rest' ↔
      whole.toList = head'.toList ++ mark.toList ++ rest'.toList := by
    rw [← String.toList_inj, String.toList_append, String.toList_append]
  rw [splitAtMark_eq_some_iff]
  constructor
  · rintro ⟨heq, hfirst⟩
    refine ⟨(hwhole _ _).mp heq, fun head' rest' h => ?_⟩
    have hle := hfirst (.ofList head') (.ofList rest') ((hwhole _ _).mpr (by simpa using h))
    rwa [String.length_ofList, ← String.length_toList] at hle
  · rintro ⟨heq, hfirst⟩
    refine ⟨(hwhole _ _).mpr heq, fun head' rest' h => ?_⟩
    have hle := hfirst head'.toList rest'.toList ((hwhole _ _).mp h)
    rwa [String.length_toList, String.length_toList] at hle

theorem splitAtMark_append_left {m : Char} {ms front : List Char} (h : m ∉ front) :
    splitAtMark (m :: ms) (front ++ cs) =
      (splitAtMark (m :: ms) cs).map fun (before, after) => (front ++ before, after) := by
  induction front with
  | nil => simp
  | cons c front ih =>
    obtain ⟨hc, hfront⟩ := not_or.mp (List.mem_cons.not.mp h)
    rw [List.cons_append, splitAtMark, if_neg (by simp [hc]), ih hfront, Option.map_map]
    rfl

/-- A mark ends where there is still a character of it. -/
theorem prefix_append_iff {back : List Char} (h : ∀ c ∈ mark, c ∉ back) :
    mark <+: cs ++ back ↔ mark <+: cs := by
  constructor
  · intro hmark
    rcases List.prefix_or_prefix_of_prefix hmark (List.prefix_append cs back) with hcs | ⟨x, rfl⟩
    · exact hcs
    · have hx := (List.prefix_append_right_inj cs).mp hmark
      cases x with
      | nil => simp
      | cons c x => exact absurd (hx.subset List.mem_cons_self) (h c (by simp))
  · exact fun hcs => hcs.trans (List.prefix_append cs back)

theorem splitAtMark_append_right {m : Char} {ms back : List Char} (h : ∀ c ∈ m :: ms, c ∉ back) :
    splitAtMark (m :: ms) (cs ++ back) =
      (splitAtMark (m :: ms) cs).map fun (before, after) => (before, after ++ back) := by
  induction cs with
  | nil => rw [List.nil_append, splitAtMark_eq_none (h m List.mem_cons_self)]; rfl
  | cons c cs ih =>
    have hfront : (m :: ms).isPrefixOf (c :: (cs ++ back)) = (m :: ms).isPrefixOf (c :: cs) := by
      rw [Bool.eq_iff_iff, List.isPrefixOf_iff_prefix, List.isPrefixOf_iff_prefix,
        ← List.cons_append]
      exact prefix_append_iff h
    rw [List.cons_append, splitAtMark, splitAtMark, hfront]
    split
    · next hmark =>
      have hlength := (List.isPrefixOf_iff_prefix.mp hmark).length_le
      rw [← List.cons_append, List.drop_append_of_le_length hlength]
      rfl
    · rw [ih, Option.map_map, Option.map_map]
      rfl

end cut

/-! ## Data addresses -/

/-- The text is a data address with some type, and `rest` is what it holds. -/
def Addresses (data rest : String) : Prop :=
  ∃ mime, FirstCut ";base64," data ("data:" ++ mime) rest

/-- What a text holds: what stands behind the head of a data address, or all of it. -/
def IsPayload (data p : String) : Prop :=
  Addresses data p ∨ p = data ∧ ∀ rest, ¬ Addresses data rest

variable {data p : String} {bytes : List UInt8}

theorem addresses_iff {rest : String} :
    Addresses data rest ↔ ∃ head, splitAtMark ";base64,".toList data.toList =
      some (head, rest.toList) ∧ "data:".toList <+: head := by
  constructor
  · rintro ⟨mime, hcut⟩
    exact ⟨_, firstCut_iff.mp hcut, mime.toList, by simp⟩
  · rintro ⟨_, hsplit, mime, rfl⟩
    exact ⟨.ofList mime, firstCut_iff.mpr (by simpa using hsplit)⟩

theorem payloadChars_of_addresses {rest : String} (h : Addresses data rest) :
    payloadChars data.toList = rest.toList := by
  obtain ⟨head, hsplit, hhead⟩ := addresses_iff.mp h
  rw [payloadChars, hsplit]
  exact if_pos (List.isPrefixOf_iff_prefix.mpr hhead)

theorem payloadChars_of_bare (h : ∀ rest, ¬ Addresses data rest) :
    payloadChars data.toList = data.toList := by
  rw [payloadChars]
  split
  · next head rest hsplit =>
    refine if_neg fun hhead => h (.ofList rest) (addresses_iff.mpr ⟨head, ?_, ?_⟩)
    · rw [hsplit, String.toList_ofList]
    · exact List.isPrefixOf_iff_prefix.mp hhead
  · rfl

/-- A text has one payload. -/
theorem isPayload_iff : IsPayload data p ↔ p = String.ofList (payloadChars data.toList) := by
  by_cases haddress : ∃ rest, Addresses data rest
  · obtain ⟨rest, hrest⟩ := haddress
    rw [payloadChars_of_addresses hrest, String.ofList_toList]
    constructor
    · rintro (hp | ⟨-, hbare⟩)
      · rw [← String.toList_inj, ← payloadChars_of_addresses hp, payloadChars_of_addresses hrest]
      · exact absurd hrest (hbare rest)
    · rintro rfl
      exact .inl hrest
  · have hbare := not_exists.mp haddress
    rw [payloadChars_of_bare hbare, String.ofList_toList]
    exact ⟨fun h => (h.resolve_left (hbare p)).1, fun h => .inr ⟨h, hbare⟩⟩

theorem decodeContent_eq_ok_iff : decodeContent data = .ok bytes ↔
    Text.trimChars (payloadChars data.toList) = Base64.encodeChars bytes := by
  rw [decodeContent, Base64.decode_eq_ok_iff, Base64.encode, String.ofList_inj]

/-- Contents that cannot be read make the answer of the store malformed. -/
theorem openPayload_of_fault {file : FilePayload} {fault : Base64.Fault}
    (h : decodeContent file.data = .error fault) : RpcClient.openPayload file =
      .error (.malformed ("file data is not valid base64: " ++ fault.message)) := by
  rw [RpcClient.openPayload, h]

/-- Every text has one payload, and its contents are read as some bytes just when the payload is
their written form with blanks around it; the contents of any other text are malformed. What has
been written is read as it was, and the written form is the one that spells the bytes. -/
theorem contents_read_iff_written :
    (∀ data, ∃ p, (∀ q, IsPayload data q ↔ q = p) ∧
      (∀ bytes, decodeContent data = .ok bytes ↔ Text.trim p = Base64.encode bytes) ∧
      ((∀ bytes, Text.trim p ≠ Base64.encode bytes) →
        ∃ fault, decodeContent data = .error fault ∧
          ∀ file : FilePayload, file.data = data → RpcClient.openPayload file =
            .error (.malformed ("file data is not valid base64: " ++ fault.message)))) ∧
    ∀ bytes, decodeContent (Base64.encode bytes) = .ok bytes ∧
      ∀ cs, Base64.Spells cs bytes ↔ String.ofList cs = Base64.encode bytes := by
  refine ⟨fun data => ⟨.ofList (payloadChars data.toList), fun _ => isPayload_iff, ?_⟩,
    fun bytes => ⟨decodeContent_of_carries (.inl rfl), fun cs => ?_⟩⟩
  · have hread (bytes : List UInt8) : decodeContent data = .ok bytes ↔
        Text.trim (.ofList (payloadChars data.toList)) = Base64.encode bytes := by
      rw [decodeContent_eq_ok_iff, Text.trim, Base64.encode, String.ofList_inj,
        String.toList_ofList]
    refine ⟨hread, fun hnone => ?_⟩
    cases hdecode : decodeContent data with
    | ok bytes => exact absurd ((hread bytes).mp hdecode) (hnone bytes)
    | error fault =>
      refine ⟨fault, rfl, ?_⟩
      rintro file rfl
      exact openPayload_of_fault hdecode
  · rw [Base64.spells_iff, Base64.encode, String.ofList_inj]

/-! ## Blanks around a text -/

theorem notMem_of_allBlank {blanks : List Char} (h : AllBlank blanks) {c : Char}
    (hc : Text.isBlank c = false) : c ∉ blanks := by
  intro hmem
  rw [h c hmem] at hc
  cases hc

theorem mark_not_blank : ∀ c ∈ ";base64,".toList, Text.isBlank c = false := by
  simp [Text.isBlank]

theorem payloadChars_append_blanks {back : List Char} (h : AllBlank back) (cs : List Char) :
    payloadChars (cs ++ back) = payloadChars cs ++ back := by
  have hsplit : splitAtMark ";base64,".toList (cs ++ back) =
      (splitAtMark ";base64,".toList cs).map fun (before, after) => (before, after ++ back) :=
    splitAtMark_append_right fun c hc => notMem_of_allBlank h (mark_not_blank c hc)
  rw [payloadChars, payloadChars, hsplit]
  cases splitAtMark ";base64,".toList cs with
  | none => rfl
  | some parts => dsimp only [Option.map_some]; split <;> rfl

/-- Behind a blank there is no data address. -/
theorem payloadChars_of_blank_front {front : List Char} (h : AllBlank front) (hne : front ≠ [])
    (cs : List Char) : payloadChars (front ++ cs) = front ++ cs := by
  have hsplit : splitAtMark ";base64,".toList (front ++ cs) =
      (splitAtMark ";base64,".toList cs).map fun (before, after) => (front ++ before, after) :=
    splitAtMark_append_left (notMem_of_allBlank h rfl)
  have hhead (before : List Char) : ¬ "data:".toList.isPrefixOf (front ++ before) = true := by
    obtain ⟨c, front, rfl⟩ := List.exists_cons_of_ne_nil hne
    rw [List.isPrefixOf_iff_prefix]
    rintro ⟨tail, htail⟩
    obtain ⟨rfl, -⟩ := List.cons.inj htail
    exact notMem_of_allBlank h (c := 'd') rfl List.mem_cons_self
  rw [payloadChars, hsplit]
  cases splitAtMark ";base64,".toList cs with
  | none => rfl
  | some parts => exact if_neg (hhead parts.1)

/-- No contents are read of a data address that has a blank in front of it. -/
theorem not_written_of_addresses {rest : String} (h : Addresses data rest) :
    Text.trimChars data.toList ≠ Base64.encodeChars bytes := by
  intro hwritten
  obtain ⟨mime, hcut⟩ := h
  have hmark : ';' ∈ data.toList := by
    rw [hcut.whole_eq]
    simp
  have hkept : ';' ∈ Base64.encodeChars bytes := hwritten ▸ Text.mem_trimChars hmark rfl
  exact (Base64.plain_of_mem_encodeChars bytes ';' hkept).2.1 rfl

/-- Blanks around a text change nothing of what is read, unless they stand in front of a data
address; such a text is not read at all. -/
theorem blanks_harmless_iff (data : String) {front back : String} (hfront : AllBlank front.toList)
    (hback : AllBlank back.toList) (bytes : List UInt8) :
    decodeContent (front ++ data ++ back) = .ok bytes ↔
      decodeContent data = .ok bytes ∧ (front = "" ∨ ∀ rest, ¬ Addresses data rest) := by
  rw [decodeContent_eq_ok_iff, decodeContent_eq_ok_iff, String.toList_append,
    String.toList_append]
  by_cases hne : front = ""
  · -- blanks at the end stay at the end of the payload, and are cut off there
    subst hne
    have hnone : AllBlank [] := nofun
    have hsame := Text.trimChars_between hnone hback (payloadChars data.toList)
    rw [List.nil_append] at hsame
    rw [String.toList_empty, List.nil_append, payloadChars_append_blanks hback, hsame]
    exact (and_iff_left (.inl rfl)).symm
  · -- behind a blank all of the text is the payload, whether or not it is a data address
    have hnil : front.toList ≠ [] := fun hnil => hne (String.toList_eq_nil_iff.mp hnil)
    rw [List.append_assoc, payloadChars_of_blank_front hfront hnil, ← List.append_assoc,
      Text.trimChars_between hfront hback]
    constructor
    · intro hread
      have hbare rest : ¬ Addresses data rest := fun h => not_written_of_addresses h hread
      exact ⟨by rwa [payloadChars_of_bare hbare], .inr hbare⟩
    · rintro ⟨hread, hbare⟩
      rwa [payloadChars_of_bare (hbare.resolve_left hne)] at hread

/-- The letters of `hello`. -/
def helloBytes : List UInt8 := [104, 101, 108, 108, 111]

theorem blanks_harmless_around_bare :
    AllBlank "\t".toList ∧ AllBlank "\r\n".toList ∧
      decodeContent ("\t" ++ "aGVsbG8=" ++ "\r\n") = .ok helloBytes := by
  have hfront : AllBlank "\t".toList := by simp [AllBlank, Text.isBlank]
  have hback : AllBlank "\r\n".toList := by simp [AllBlank, Text.isBlank]
  have hbare rest : ¬ Addresses "aGVsbG8=" rest := by
    rw [addresses_iff]
    rintro ⟨head, hsplit, -⟩
    cases hsplit
  have hread : decodeContent "aGVsbG8=" = .ok helloBytes :=
    decodeContent_eq_ok_iff.mpr (by decide +kernel)
  exact ⟨hfront, hback,
    (blanks_harmless_iff "aGVsbG8=" hfront hback helloBytes).mpr ⟨hread, .inr hbare⟩⟩

/-- A data address is read. With a blank in front of it, its colon is told to be no symbol. -/
theorem blank_hides_address :
    AllBlank " ".toList ∧ AllBlank "".toList ∧
      decodeContent "data:text/plain;base64,aGVsbG8=" = .ok helloBytes ∧
      decodeContent (" " ++ "data:text/plain;base64,aGVsbG8=" ++ "") =
        .error (.invalidSymbol 58 4) := by
  refine ⟨by simp [AllBlank, Text.isBlank], by simp [AllBlank], ?_, ?_⟩
  · exact decodeContent_eq_ok_iff.mpr (by decide +kernel)
  · decide +kernel

end FeedExplorer.Files
