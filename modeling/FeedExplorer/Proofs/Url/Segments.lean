import FeedExplorer.Proofs.Url.Reading

/-!
# Segments of a path

The path of an address of a well-known scheme has a segment, and no segment holds a slash, so the
text of a path tells its segments. Main statement: a name next to a path that has been closed stands
behind the whole text of the path and a slash, which is put there if the path does not end in one.
-/

namespace FeedExplorer.Url

/-! ## What is read as segments -/

/-- No segment holds a slash. -/
def NoSlash (parts : List String) : Prop :=
  ∀ part ∈ parts, '/' ∉ part.toList

/-- There is a segment, and none of them holds a slash. -/
structure Segmented (parts : List String) : Prop where
  ne_nil : parts ≠ []
  no_slash : NoSlash parts

theorem NoSlash.concat {parts : List String} {part : String} (h : NoSlash parts)
    (hpart : '/' ∉ part.toList) : NoSlash (parts ++ [part]) :=
  List.forall_mem_append.mpr ⟨h, List.forall_mem_singleton.mpr hpart⟩

theorem slash_ne_hexDigitUpper : ∀ n < 16, '/' ≠ Text.hexDigitUpper n := by
  decide

theorem slash_notMem_hexFixedUpper (width n : Nat) : '/' ∉ Text.hexFixedUpper width n := by
  induction width generalizing n with
  | zero => exact List.not_mem_nil
  | succ width ih =>
    intro hmem
    rcases List.mem_append.mp hmem with hmem | hmem
    · exact ih _ hmem
    · exact slash_ne_hexDigitUpper (n % 16) (Nat.mod_lt _ (by omega)) (List.mem_singleton.mp hmem)

theorem slash_notMem_escape {cs : List Char} (h : '/' ∉ cs) (set : EscapeSet) :
    '/' ∉ escape set cs := by
  intro hmem
  obtain ⟨c, hc, hmem⟩ := List.mem_flatMap.mp hmem
  rw [escapeChar] at hmem
  split at hmem
  · exact h (List.mem_singleton.mp hmem ▸ hc)
  · obtain ⟨b, -, hb⟩ := List.mem_flatMap.mp hmem
    rcases List.mem_cons.mp hb with hpercent | hhex
    · cases hpercent
    · exact slash_notMem_hexFixedUpper 2 b.toNat hhex

theorem splitAt_ne_nil (mark : Char) (cs : List Char) : splitAt mark cs ≠ [] := by
  cases cs with
  | nil => exact List.cons_ne_nil _ _
  | cons c cs =>
    rw [splitAt]
    split
    · exact List.cons_ne_nil _ _
    · split <;> exact List.cons_ne_nil _ _

theorem notMem_of_mem_splitAt {mark : Char} {cs : List Char} :
    ∀ part ∈ splitAt mark cs, mark ∉ part := by
  induction cs with
  | nil => simp [splitAt]
  | cons c cs ih =>
    rw [splitAt]
    split
    · exact List.forall_mem_cons.mpr ⟨List.not_mem_nil, ih⟩
    · next hc =>
      split
      · next part rest heq =>
        rw [heq] at ih
        obtain ⟨hpart, hrest⟩ := List.forall_mem_cons.mp ih
        refine List.forall_mem_cons.mpr ⟨fun hmem => ?_, hrest⟩
        exact (List.mem_cons.mp hmem).elim (fun heq => hc heq.symm) hpart
      · next heq => exact absurd heq (splitAt_ne_nil mark cs)

/-- The last of some segments always leaves one behind. -/
theorem addSegments_ne_nil {done : List String} {segs : List (List Char)} (h : segs ≠ []) :
    addSegments done segs ≠ [] := by
  induction segs generalizing done with
  | nil => exact absurd rfl h
  | cons seg rest ih =>
    rw [addSegments]
    cases rest with
    | nil =>
      simp only [List.isEmpty_nil, if_true, addSegments]
      split_ifs <;> exact List.append_ne_nil_of_right_ne_nil _ (List.cons_ne_nil _ _)
    | cons next rest => split_ifs <;> exact ih (List.cons_ne_nil _ _)

theorem noSlash_addSegments {done : List String} {segs : List (List Char)} (hdone : NoSlash done)
    (hsegs : ∀ seg ∈ segs, '/' ∉ seg) : NoSlash (addSegments done segs) := by
  induction segs generalizing done with
  | nil => exact hdone
  | cons seg rest ih =>
    obtain ⟨hseg, hrest⟩ := List.forall_mem_cons.mp hsegs
    have hup : NoSlash done.dropLast :=
      fun part hpart => hdone part (List.dropLast_subset done hpart)
    rw [addSegments]
    split_ifs
    · exact ih (hup.concat List.not_mem_nil) hrest
    · exact ih hup hrest
    · exact ih (hdone.concat List.not_mem_nil) hrest
    · exact ih hdone hrest
    · refine ih (hdone.concat ?_) hrest
      rw [String.toList_ofList]
      exact slash_notMem_escape hseg pathSet

theorem segmented_pathSegments (special : Bool) (cs : List Char) :
    Segmented (pathSegments special [] cs) :=
  ⟨addSegments_ne_nil (splitAt_ne_nil _ _), noSlash_addSegments nofun notMem_of_mem_splitAt⟩

theorem segmented_rootedSegments (cs : List Char) : Segmented (rootedSegments true cs) := by
  rw [rootedSegments]
  split
  · exact segmented_pathSegments true _
  · exact ⟨List.cons_ne_nil _ _, List.forall_mem_singleton.mpr List.not_mem_nil⟩
  · exact segmented_pathSegments true _

theorem segmented_of_parse {text : String} {u : Url} (h : parse text = .ok u)
    (hspecial : isSpecialScheme u.scheme = true) :
    ∃ parts, u.path = .segments parts ∧ Segmented parts := by
  obtain ⟨cs, h⟩ := exists_afterSlashes_eq h hspecial
  unfold afterSlashes at h
  obtain ⟨a, -, h⟩ := Json.bind_eq_ok_iff.mp h
  rw [hspecial] at h
  rw [← Except.ok.inj h]
  exact ⟨_, rfl, segmented_rootedSegments _⟩

/-! ## The text of a path -/

theorem toList_text (parts : List String) :
    (Path.segments parts).text.toList = parts.flatMap fun part => '/' :: part.toList := by
  induction parts with
  | nil => rfl
  | cons part parts ih =>
    have hcons : (Path.segments (part :: parts)).text =
        "/" ++ part ++ (Path.segments parts).text := by
      simp [Path.text, String.join_cons]
    rw [hcons, String.toList_append, String.toList_append, ih, List.flatMap_cons]
    rfl

theorem text_concat (parts : List String) (part : String) :
    (Path.segments (parts ++ [part])).text = (Path.segments parts).text ++ "/" ++ part := by
  rw [← String.toList_inj, String.toList_append, String.toList_append, toList_text, toList_text,
    List.flatMap_append, List.append_assoc]
  simp

theorem splitAt_append {mark : Char} {part : List Char} (h : mark ∉ part) (cs : List Char) :
    splitAt mark (part ++ mark :: cs) = part :: splitAt mark cs := by
  induction part with
  | nil => rw [List.nil_append, splitAt, if_pos rfl]
  | cons c part ih =>
    obtain ⟨hc, hpart⟩ := not_or.mp (List.mem_cons.not.mp h)
    rw [List.cons_append, splitAt, if_neg (Ne.symm hc), ih hpart]

theorem splitAt_segments {part : List Char} {parts : List String} (hpart : '/' ∉ part)
    (hparts : NoSlash parts) :
    splitAt '/' (part ++ parts.flatMap fun p => '/' :: p.toList) =
      part :: parts.map String.toList := by
  induction parts generalizing part with
  | nil => rw [List.flatMap_nil, List.append_nil, splitAt_of_notMem hpart, List.map_nil]
  | cons next parts ih =>
    obtain ⟨hnext, hparts⟩ := List.forall_mem_cons.mp hparts
    rw [List.flatMap_cons, List.cons_append, splitAt_append hpart, ih hnext hparts, List.map_cons]

/-- The text of a path tells its segments. -/
theorem text_inj {parts parts' : List String} (h : NoSlash parts) (h' : NoSlash parts')
    (htext : (Path.segments parts).text = (Path.segments parts').text) : parts = parts' := by
  have hsplit := congrArg (fun s : String => splitAt '/' s.toList) htext
  simp only [toList_text] at hsplit
  rw [← List.nil_append (List.flatMap _ parts), ← List.nil_append (List.flatMap _ parts'),
    splitAt_segments List.not_mem_nil h, splitAt_segments List.not_mem_nil h'] at hsplit
  exact List.map_injective_iff.mpr (fun _ _ => String.toList_inj.mp) (List.cons.inj hsplit).2

/-! ## A slash at the end -/

/-- The text of a path with a slash at its end, put there if it lacks one. -/
def slashed (path : String) : String :=
  if path.toList.getLast? = some '/' then path else path ++ "/"

/-- A slash at the end is an empty segment. -/
theorem getLast?_text_iff {parts : List String} (h : Segmented parts) :
    (Path.segments parts).text.toList.getLast? = some '/' ↔ parts.getLast? = some "" := by
  obtain ⟨front, last, rfl⟩ := (List.eq_nil_or_concat' parts).resolve_left h.ne_nil
  have hlast : '/' ∉ last.toList := h.no_slash last (by simp)
  rw [text_concat, String.toList_append, String.toList_append, List.getLast?_concat,
    Option.some_inj]
  rcases List.eq_nil_or_concat' last.toList with hnil | ⟨cs, c, hcs⟩
  · rw [hnil, String.toList_eq_nil_iff.mp hnil]
    simp
  · rw [hcs] at hlast ⊢
    have hne : last ≠ "" := by
      rintro rfl
      cases cs <;> cases hcs
    rw [← List.append_assoc, List.getLast?_concat, Option.some_inj]
    exact iff_of_false (fun hc => hlast (by simp [hc])) hne

/-- A path that has been closed has an empty segment behind all that it had before. -/
theorem exists_closed_eq {parts : List String} (h : Segmented parts) :
    ∃ front, (Path.segments parts).closed = .segments (front ++ [""]) ∧
      (Path.segments front).text ++ "/" = slashed (Path.segments parts).text := by
  have hend := getLast?_text_iff h
  rw [Path.closed, slashed]
  by_cases hlast : parts.getLast? = some ""
  · obtain ⟨front, hfront⟩ := List.getLast?_eq_some_iff.mp hlast
    refine ⟨front, ?_, ?_⟩
    · rw [if_pos hlast, hfront]
    · rw [if_pos (hend.mpr hlast), hfront, text_concat]
      exact (String.append_empty).symm
  · refine ⟨parts, ?_, ?_⟩
    · rw [if_neg hlast]
    · rw [if_neg fun hslash => hlast (hend.mp hslash)]

/-- What is seen from the address under a name that is added to its path. -/
structure Below (u : Url) (name : String) (v : Url) : Prop where
  scheme : v.scheme = u.scheme
  username : v.username = u.username
  password : v.password = u.password
  host : v.host = u.host
  port : v.port = u.port
  path : v.path.text = slashed u.path.text ++ name
  query : v.query = none
  fragment : v.fragment = none

theorem below_closed {u : Url} {parts : List String} (hpath : u.path = .segments parts)
    (h : Segmented parts) (name : String) : u.Below name (u.closed.beside name) := by
  refine ⟨rfl, rfl, rfl, rfl, rfl, ?_, rfl, rfl⟩
  obtain ⟨front, hclosed, htext⟩ := exists_closed_eq h
  rw [hpath, ← htext, ← text_concat, closed, beside, hpath]
  simp only [hclosed, Path.parts, List.dropLast_concat]

theorem target_of_below {u v : Url} {name : String} (h : u.Below name v) :
    v.target = slashed u.path.text ++ name := by
  rw [target, h.query, h.path]
  exact String.append_empty

/-- All of it that is in front of the path is that of the other address. -/
theorem text_of_below {u v : Url} {name : String} {host : Host} (h : u.Below name v)
    (hhost : u.host = some host) : v.text = u.origin ++ (slashed u.path.text ++ name) := by
  have horigin : v.origin = u.origin := by
    rw [origin, origin, h.host, hhost, h.scheme, credentials, credentials, portText, portText,
      h.username, h.password, h.port]
  rw [text, target_of_below h, h.fragment, horigin]
  exact String.append_empty

/-- The second address has a slash at the end of its path where the first one has none, and is the
first one otherwise. -/
structure GainsSlash (u u' : Url) : Prop where
  open_path : u.path.text.toList.getLast? ≠ some '/'
  path : u'.path.text = u.path.text ++ "/"
  same : u' = { u with path := u'.path }

theorem closed_eq_of_gainsSlash {u u' : Url} {parts parts' : List String}
    (hpath : u.path = .segments parts) (hpath' : u'.path = .segments parts')
    (h : Segmented parts) (h' : Segmented parts') (hgains : u.GainsSlash u') :
    u'.closed = u.closed := by
  obtain ⟨hopen, htext, hsame⟩ := hgains
  rw [hpath] at hopen htext
  -- the text of the second path tells that its segments are those of the first and an empty one
  have hlast : parts.getLast? ≠ some "" := fun hlast => hopen ((getLast?_text_iff h).mpr hlast)
  have hslash : (Path.segments parts').text = (Path.segments (parts ++ [""])).text := by
    rw [text_concat, ← hpath', htext]
    exact (String.append_empty).symm
  obtain rfl := text_inj h'.no_slash (h.no_slash.concat List.not_mem_nil) hslash
  have hclosed : (Path.segments (parts ++ [""])).closed = (Path.segments parts).closed := by
    rw [Path.closed, Path.closed, if_pos List.getLast?_concat, if_neg hlast]
  rw [hsame, hpath', closed, closed, hpath, hclosed]

end FeedExplorer.Url
