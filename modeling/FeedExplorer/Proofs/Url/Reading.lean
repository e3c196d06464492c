import FeedExplorer.Proofs.Json.Record
import FeedExplorer.Url.Parser
import Mathlib.Data.List.TakeDrop
import Mathlib.Data.List.TakeWhile

/-!
# What an address has of its text

Main statements: an address has the scheme that its text begins with, one of the web has a host,
and any text with an unknown scheme is an address if no two slashes follow.
-/

namespace FeedExplorer.Url

open Json (bind_eq_ok_iff)

variable {u : Url} {scheme text : String} {cs : List Char}

theorem parseHost_ne_empty {host : Host} (h : parseHost cs = .ok host) : host ≠ .name "" := by
  unfold parseHost at h
  split at h
  · obtain ⟨inner, -, h⟩ := bind_eq_ok_iff.mp h
    obtain ⟨pieces, -, h⟩ := bind_eq_ok_iff.mp h
    cases h
    exact nofun
  · split at h
    · cases h
    obtain ⟨name, -, h⟩ := bind_eq_ok_iff.mp h
    split at h
    · cases h
    next hname =>
    split at h
    · obtain ⟨number, -, h⟩ := bind_eq_ok_iff.mp h
      cases h
      exact nofun
    · cases h
      simpa using hname

/-- An authority once its user has been read. -/
def authorityOf (scheme : String) (user : String × Option String) (hostPort : List Char) :
    Except Fault Authority := do
  let special := isSpecialScheme scheme
  let (hostText, rest) := spanHost false hostPort
  if hostText.isEmpty ∧ (special ∨ ¬ rest.isEmpty) then throw .emptyHost
  let host ← if special then parseHost hostText else parseOpaqueHost hostText
  let port ← match rest with
    | ':' :: digits => parsePort digits
    | _ => pure none
  if hostText.isEmpty ∧ ¬ user.1.isEmpty then throw .emptyHost
  let port := if port.isSome ∧ port = usualPort? scheme then none else port
  return { username := user.1, password := user.2, host, port }

theorem exists_parseAuthority_eq (scheme : String) (cs : List Char) :
    ∃ user hostPort, parseAuthority scheme cs = authorityOf scheme user hostPort := by
  rw [parseAuthority]
  cases splitLast '@' cs <;> exact ⟨_, _, rfl⟩

theorem host_of_authorityOf {user : String × Option String} {a : Authority}
    (hspecial : isSpecialScheme scheme = true) (h : authorityOf scheme user cs = .ok a) :
    a.host ≠ .name "" := by
  unfold authorityOf at h
  rw [hspecial] at h
  generalize spanHost false cs = parts at h
  obtain ⟨hostText, rest⟩ := parts
  dsimp only at h
  split at h
  · cases h
  rw [if_pos rfl] at h
  obtain ⟨host, hhost, h⟩ := bind_eq_ok_iff.mp h
  -- with a port and without one
  split at h
  all_goals
    obtain ⟨port, -, h⟩ := bind_eq_ok_iff.mp h
    split at h
    · cases h
    · cases h
      exact parseHost_ne_empty hhost

theorem host_of_parseAuthority {a : Authority} (hspecial : isSpecialScheme scheme = true)
    (h : parseAuthority scheme cs = .ok a) : a.host ≠ .name "" := by
  obtain ⟨user, hostPort, heq⟩ := exists_parseAuthority_eq scheme cs
  exact host_of_authorityOf hspecial (heq.symm.trans h)

/-- What is known of an address from two slashes on. -/
theorem afterSlashes_eq_ok (h : afterSlashes scheme cs = .ok u) :
    u.scheme = scheme ∧ u.canBeBase = true ∧
      ∃ host, u.host = some host ∧ (isSpecialScheme scheme = true → host ≠ .name "") := by
  unfold afterSlashes at h
  obtain ⟨a, ha, h⟩ := bind_eq_ok_iff.mp h
  cases h
  exact ⟨rfl, rfl, a.host, rfl, fun hspecial => host_of_parseAuthority hspecial ha⟩

theorem scheme_of_parseFile (h : parseFile cs = .ok u) : u.scheme = "file" := by
  unfold parseFile at h
  dsimp only at h
  split at h
  · next rest _ =>
    generalize rest.span (fun c => decide (c ≠ '/')) = parts at h
    obtain ⟨name, path⟩ := parts
    dsimp only at h
    split at h
    · cases h
      rfl
    · obtain ⟨host, -, h⟩ := bind_eq_ok_iff.mp h
      cases h
      rfl
  · cases h
    rfl

theorem scheme_of_parseOther (h : parseOther scheme cs = .ok u) : u.scheme = scheme := by
  unfold parseOther at h
  split at h
  · exact (afterSlashes_eq_ok h).1
  · cases h
    rfl

/-- An unknown scheme with no two slashes behind it takes any text, and there is no host in it. -/
theorem parseOther_of_no_slashes (scheme : String) (h : ¬ ['/', '/'] <+: cs) :
    ∃ u, parseOther scheme cs = .ok u ∧ u.host = none := by
  unfold parseOther
  split
  · next rest => exact absurd (List.prefix_append ['/', '/'] rest) h
  · exact ⟨_, rfl, rfl⟩

theorem parse_of_scheme {rest : List Char}
    (h : scheme? (clean text.toList) = some (scheme, rest)) :
    parse text =
      if scheme = "file" then parseFile rest
      else if isSpecialScheme scheme then
        afterSlashes scheme (rest.drop (rest.takeWhile fun c => c == '/' || c == '\\').length)
      else parseOther scheme rest := by
  unfold parse parseWith
  dsimp only
  rw [h]

theorem parse_of_no_scheme (h : scheme? (clean text.toList) = none) :
    parse text = .error .noBase := by
  unfold parse parseWith
  dsimp only
  rw [h]

theorem scheme_of_parse (h : parse text = .ok u) :
    ∃ rest, scheme? (clean text.toList) = some (u.scheme, rest) := by
  cases hscheme : scheme? (clean text.toList) with
  | none =>
    rw [parse_of_no_scheme hscheme] at h
    cases h
  | some parts =>
    obtain ⟨scheme, rest⟩ := parts
    suffices hsame : u.scheme = scheme by exact ⟨rest, by rw [hsame]⟩
    rw [parse_of_scheme hscheme] at h
    split at h
    · next hfile => rw [hfile, scheme_of_parseFile h]
    split at h
    · exact (afterSlashes_eq_ok h).1
    · exact scheme_of_parseOther h

theorem isSpecialScheme_of_isWeb (h : u.isWeb = true) : isSpecialScheme u.scheme = true := by
  simp only [isWeb, Bool.or_eq_true, beq_iff_eq] at h
  rcases h with h | h <;> rw [h] <;> rfl

theorem isSpecialScheme_file : isSpecialScheme "file" = false := rfl

theorem exists_afterSlashes_eq (h : parse text = .ok u)
    (hspecial : isSpecialScheme u.scheme = true) : ∃ cs, afterSlashes u.scheme cs = .ok u := by
  obtain ⟨rest, hscheme⟩ := scheme_of_parse h
  have hfile : u.scheme ≠ "file" := by
    intro hfile
    rw [hfile, isSpecialScheme_file] at hspecial
    cases hspecial
  rw [parse_of_scheme hscheme, if_neg hfile, if_pos hspecial] at h
  exact ⟨_, h⟩

/-- An address of a well-known scheme has a host and can be a base. -/
theorem host_of_parse (h : parse text = .ok u) (hspecial : isSpecialScheme u.scheme = true) :
    u.canBeBase = true ∧ ∃ host, u.host = some host ∧ host ≠ .name "" := by
  obtain ⟨cs, h⟩ := exists_afterSlashes_eq h hspecial
  obtain ⟨-, hbase, host, hhost, hne⟩ := afterSlashes_eq_ok h
  exact ⟨hbase, host, hhost, hne hspecial⟩

/-- Any text behind an unknown scheme is taken if no two slashes stand in front of it. -/
theorem parse_of_unknown_scheme {rest : List Char}
    (hscheme : scheme? (clean text.toList) = some (scheme, rest)) (hfile : scheme ≠ "file")
    (hspecial : isSpecialScheme scheme = false) (hrest : ¬ ['/', '/'] <+: rest) :
    ∃ u, parse text = .ok u ∧ u.isWeb = false ∧ u.host = none := by
  obtain ⟨u, hu, hhost⟩ := parseOther_of_no_slashes scheme hrest
  have hparse : parse text = .ok u := by
    rw [parse_of_scheme hscheme, if_neg hfile, if_neg (by simp [hspecial]), hu]
  refine ⟨u, hparse, ?_, hhost⟩
  cases hweb : u.isWeb with
  | false => rfl
  | true =>
    have hspecial' := isSpecialScheme_of_isWeb hweb
    rw [scheme_of_parseOther hu, hspecial] at hspecial'
    cases hspecial'

/-! ## Names seen from an address -/

theorem canBeBase_closed (u : Url) : u.closed.canBeBase = u.canBeBase := by
  obtain ⟨_, _, _, _, _, path, _, _⟩ := u
  cases path <;> simp only [closed, Path.closed] <;> split <;> rfl

/-- A name that is one segment of a path and nothing else. -/
structure PlainName (name : String) : Prop where
  clean_eq : clean name.toList = name.toList
  no_scheme : scheme? name.toList = none
  ne_nil : name.toList ≠ []
  no_mark : ∀ c ∈ name.toList, c ≠ '/' ∧ c ≠ '\\' ∧ c ≠ '?' ∧ c ≠ '#'
  no_dot : isSingleDot name.toList = false
  no_dots : isDoubleDot name.toList = false
  escape_eq : escape pathSet name.toList = name.toList

theorem splitFirst_of_notMem {mark : Char} (h : mark ∉ cs) : splitFirst mark cs = none := by
  have hall : ∀ c ∈ cs, decide (c ≠ mark) = true := by
    intro c hc
    simpa using fun heq : c = mark => h (heq ▸ hc)
  rw [splitFirst, List.span_eq_takeWhile_dropWhile, List.dropWhile_eq_nil_iff.mpr hall]

theorem splitAt_of_notMem {mark : Char} (h : mark ∉ cs) : splitAt mark cs = [cs] := by
  induction cs with
  | nil => rfl
  | cons c cs ih =>
    obtain ⟨hc, hcs⟩ := not_or.mp (List.mem_cons.not.mp h)
    rw [splitAt, if_neg (Ne.symm hc), ih hcs]

theorem slashes_of_notMem (h : '\\' ∉ cs) (special : Bool) : slashes special cs = cs := by
  have hsame : ∀ c ∈ cs, (if c = '\\' then '/' else c) = c := by
    intro c hc
    rw [if_neg fun heq : c = '\\' => h (heq ▸ hc)]
  rw [slashes]
  split
  · exact (List.map_congr_left hsame).trans (List.map_id' cs)
  · rfl

/-- The address with another last segment, and without a query or a fragment. -/
def beside (base : Url) (name : String) : Url :=
  { base with
    path := .segments (base.path.parts.dropLast ++ [name]), query := none, fragment := none }

namespace PlainName

variable {name : String} (h : PlainName name)

include h

theorem slashes_eq (special : Bool) : slashes special name.toList = name.toList :=
  slashes_of_notMem (fun hc => (h.no_mark _ hc).2.1 rfl) special

theorem slash_notMem : '/' ∉ name.toList :=
  fun hc => (h.no_mark _ hc).1 rfl

theorem splitTail_eq :
    splitTail name.toList = { path := name.toList, query := none, fragment := none } := by
  rw [splitTail, splitFirst_of_notMem fun hc => (h.no_mark _ hc).2.2.2 rfl]
  dsimp only
  rw [splitFirst_of_notMem fun hc => (h.no_mark _ hc).2.2.1 rfl]

theorem pathSegments_eq (special : Bool) (done : List String) :
    pathSegments special done name.toList = done ++ [name] := by
  rw [pathSegments, h.slashes_eq, splitAt_of_notMem h.slash_notMem, addSegments,
    if_neg (by simp [h.no_dots]), if_neg (by simp [h.no_dot]), addSegments, h.escape_eq,
    String.ofList_toList]

theorem parseRelative_eq (base : Url) : parseRelative base name.toList = .ok (base.beside name) := by
  have hslash : ∀ rest, name.toList ≠ '/' :: rest :=
    fun rest hrest => h.slash_notMem (hrest ▸ List.mem_cons_self)
  unfold parseRelative
  dsimp only
  rw [h.slashes_eq, h.splitTail_eq]
  dsimp only
  rw [h.slashes_eq]
  split
  · next rest hrest => exact absurd hrest (hslash _)
  split
  · next hnil => exact absurd hnil h.ne_nil
  · next rest hrest => exact absurd hrest (hslash _)
  · rw [h.pathSegments_eq]
    rfl

/-- A plain name stands for the last segment of the path, and for nothing else of an address. -/
theorem join_eq (base : Url) :
    base.join name = if base.canBeBase then .ok (base.beside name) else .error .opaqueBase := by
  unfold join parseWith
  dsimp only
  rw [h.clean_eq, h.no_scheme]
  dsimp only
  split
  · next rest hrest => exact absurd rfl (h.no_mark '#' (hrest ▸ List.mem_cons_self)).2.2.2
  · rw [h.parseRelative_eq]

end PlainName

theorem plainName_get_all_blocks : PlainName "get_all_blocks" where
  clean_eq := by decide +kernel
  no_scheme := by decide +kernel
  ne_nil := by decide +kernel
  no_mark := by simp
  no_dot := by decide +kernel
  no_dots := by decide +kernel
  escape_eq := by decide +kernel

theorem plainName_create_block : PlainName "create_block" where
  clean_eq := by decide +kernel
  no_scheme := by decide +kernel
  ne_nil := by decide +kernel
  no_mark := by simp
  no_dot := by decide +kernel
  no_dots := by decide +kernel
  escape_eq := by decide +kernel

end FeedExplorer.Url
