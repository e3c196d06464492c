import FeedExplorer.Config.Text
import FeedExplorer.Proofs.Json.Kinds
import FeedExplorer.Proofs.Toml.Entries

/-!
# Configuration texts are read back

The text of a configuration as lines of its fields. Main statement: every configuration that has a
text is read back from it, with the fields that were left out at what they stand for.
-/

namespace FeedExplorer.Config

open Toml (Line)

/-- The line of a text under a key. -/
def textLine (key s : String) : Line :=
  ⟨key, Toml.quoteChars s.toList, .str s⟩

def intervalLine (w : UInt64) : Line :=
  ⟨"refresh_interval_ms", Number.digitsOf w.toNat, .int w.toNat⟩

/-- The lines of the fields that a configuration sets. -/
def lines (c : Config) : List Line :=
  (c.rpcUrl.map (textLine "rpc_url")).toList ++ [textLine "transport" c.protocol.name] ++
    [intervalLine c.refreshInterval] ++ (c.filesUrl.map (textLine "files_url")).toList ++
    [textLine "log_level" c.logLevel]

theorem optionalLine_eq (key : String) (o : Option String) :
    optionalLine key o = (o.map (textLine key)).toList.flatMap Line.chars := by
  cases o with
  | none => rfl
  | some s => exact (List.append_nil _).symm

/-- Just the intervals that are signed 64-bit integers can be written, and then each field has its
line. -/
theorem render?_eq_some_iff {c : Config} {text : List Char} :
    c.render? = some text ↔
      c.refreshInterval.toNat < Number.signedLimit ∧ text = c.lines.flatMap Line.chars := by
  have hlines : c.lines.flatMap Line.chars =
      optionalLine "rpc_url" c.rpcUrl ++
        entryLine "transport" (Toml.quoteChars c.protocol.name.toList) ++
        entryLine "refresh_interval_ms" (Number.digitsOf c.refreshInterval.toNat) ++
        optionalLine "files_url" c.filesUrl ++
        entryLine "log_level" (Toml.quoteChars c.logLevel.toList) := by
    simp only [lines, List.flatMap_append, List.flatMap_singleton, ← optionalLine_eq]
    rfl
  rw [render?, hlines]
  split
  · next hlimit => simp [Nat.not_lt.mpr hlimit]
  · next hlimit => simp [Nat.lt_of_not_le hlimit, eq_comm]

/-! ## Each line can be read -/

theorem readable_textLine {key : String} (hne : key.toList ≠ [])
    (hkey : key.toList.all Toml.isKeyChar) (s : String) :
    (textLine key s).Readable where
  key_ne := hne
  key := List.all_eq_true.mp hkey
  front := by
    intro c hc
    obtain rfl := Option.some.inj ((Toml.head?_quoteChars s.toList).symm.trans hc)
    rcases (Toml.styleFor s.toList).mark_eq_or with hmark | hmark <;> rw [hmark] <;> decide
  value fuel depth rest := by
    have hrest : ∀ style : Toml.Style, ('\n' :: rest).head? ≠ some style.mark := fun style h =>
      style.mark_ne_newline (Option.some.inj h)
    have hread := Toml.readValue_quoteChars s.toList hrest fuel depth
    rwa [String.ofList_toList] at hread

theorem readable_intervalLine {w : UInt64} (hw : w.toNat < Number.signedLimit) :
    (intervalLine w).Readable where
  key_ne := show "refresh_interval_ms".toList ≠ [] by decide
  key := List.all_eq_true.mp (show "refresh_interval_ms".toList.all Toml.isKeyChar by decide)
  front := by
    intro c hc
    have hdigit : c.isDigit = true :=
      Number.isDigit_of_mem_digitsOf (List.mem_of_mem_head? hc)
    rw [Toml.isSpace, Bool.or_eq_false_iff, beq_eq_false_iff_ne, beq_eq_false_iff_ne]
    constructor
    all_goals
      rintro rfl
      exact absurd hdigit (by decide)
  value fuel depth rest := Toml.readValue_digitsOf hw fuel depth rest

theorem readable_of_mem_lines {c : Config} (hc : c.refreshInterval.toNat < Number.signedLimit) :
    ∀ l ∈ c.lines, l.Readable := by
  have hoptional : ∀ {key : String} (o : Option String), (∀ s, (textLine key s).Readable) →
      ∀ l ∈ (o.map (textLine key)).toList, l.Readable := by
    intro key o h l hl
    obtain ⟨s, -, rfl⟩ := Option.map_eq_some_iff.mp (Option.mem_toList.mp hl)
    exact h s
  simp only [lines, List.forall_mem_append, List.forall_mem_singleton]
  exact ⟨⟨⟨⟨hoptional _ (readable_textLine (by decide) (by decide)),
    readable_textLine (by decide) (by decide) _⟩, readable_intervalLine hc⟩,
    hoptional _ (readable_textLine (by decide) (by decide))⟩,
    readable_textLine (by decide) (by decide) _⟩

theorem nodup_keys_lines (c : Config) : (c.lines.map (·.key)).Nodup := by
  rw [lines]
  cases c.rpcUrl <;> cases c.filesUrl <;> simp [textLine, intervalLine]

/-! ## Filling the fields -/

/-- The configuration with the value of a line in the field that its key means. -/
def put (c : Config) (l : Line) : Option Config :=
  ((shape readProtocol).field? l.key).bind fun f => (f.put l.value.toJson c).toOption

theorem ofEntries_keeps {ls : List Line} {entries : Toml.Entries}
    (h : List.Forall₂ Line.Keeps ls entries) {c c' : Config} (hc : ls.foldlM put c = some c') :
    ofEntries entries c = .ok c' := by
  induction h generalizing c with
  | nil => exact congrArg Except.ok (Option.some.inj hc)
  | cons hentry _ ih =>
    obtain ⟨start, width, rfl⟩ := hentry
    rw [List.foldlM_cons] at hc
    obtain ⟨next, hput, hc⟩ := Option.bind_eq_some_iff.mp hc
    obtain ⟨field, hfield, hput⟩ := Option.bind_eq_some_iff.mp hput
    rw [ofEntries, hfield]
    dsimp only
    rw [Toml.Node.toJson, Json.toOption_eq_some_iff.mp hput]
    exact ih hc

theorem put_transport (c : Config) (p : Chain.Protocol) :
    put c (textLine "transport" p.name) = some { c with protocol := p } := by
  cases p <;> rfl

theorem put_interval (c : Config) (w : UInt64) :
    put c (intervalLine w) = some { c with refreshInterval := w } := by
  have hfield : (shape readProtocol).field? (intervalLine w).key =
      some (Json.reading "refresh_interval_ms" [] false Json.asWord
        ⟨(·.refreshInterval), fun w c => { c with refreshInterval := w }, fun _ => rfl⟩) := rfl
  have hword : Json.asWord (intervalLine w).value.toJson = .ok w := (Json.reads_asWord _ _).mpr rfl
  rw [put, hfield, Option.bind_some, Json.reading]
  dsimp only
  rw [hword]
  rfl

/-- The lines of a configuration fill the initial one with all its fields. -/
theorem foldlM_put_lines (c : Config) : c.lines.foldlM put initial = some c := by
  have hrpc : ∀ c s, put c (textLine "rpc_url" s) = some { c with rpcUrl := some s } :=
    fun _ _ => rfl
  have hfiles : ∀ c s, put c (textLine "files_url" s) = some { c with filesUrl := some s } :=
    fun _ _ => rfl
  have hlevel : ∀ c s, put c (textLine "log_level" s) = some { c with logLevel := s } :=
    fun _ _ => rfl
  obtain ⟨rpcUrl, protocol, interval, filesUrl, logLevel⟩ := c
  cases rpcUrl <;> cases filesUrl <;>
    simp [lines, hrpc, hfiles, hlevel, put_transport, put_interval, initial]

/-- What is written of a configuration is read back. -/
theorem parse_of_render? {c : Config} {text : List Char} (h : c.render? = some text) :
    parse text = .ok c := by
  obtain ⟨hlimit, rfl⟩ := render?_eq_some_iff.mp h
  obtain ⟨entries, hentries, hparse⟩ :=
    Line.parse_flatMap (readable_of_mem_lines hlimit) (nodup_keys_lines c)
  rw [parse, hparse, Json.ok_bind]
  exact ofEntries_keeps hentries (foldlM_put_lines c)

end FeedExplorer.Config
