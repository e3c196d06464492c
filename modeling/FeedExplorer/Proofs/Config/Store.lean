import FeedExplorer.Config.Store
import FeedExplorer.Proofs.Config.Text
import FeedExplorer.Proofs.Disk.Writing
import FeedExplorer.Proofs.Text.Bytes

/-!
# Keeping a configuration

Main statement: a configuration that has been kept is loaded again as it was, whatever was kept
before, and one whose interval cannot be written is refused with every file left as it was.
-/

namespace FeedExplorer.Config

open Disk (Place)
open Json (bind_eq_ok_iff)

theorem decodeText_encodeText (cs : List Char) : decodeText (encodeText cs) = some cs := by
  have hvalid : (String.ofList cs).toUTF8.IsValidUTF8 := (String.ofList cs).isValidUTF8
  rw [decodeText, encodeText, Text.mk_toArray_toList, String.fromUTF8?, dif_pos hvalid]
  exact congrArg some (String.toList_ofList (l := cs))

/-! ## Keeping and loading -/

/-- A configuration is refused and no file changes, or its text is written behind the making of
directories. -/
theorem keep_cases (c : Config) (disk : Disk) (home : Place) :
    (∃ t after, c.keep disk home = (.error t, after) ∧ disk.Extends after) ∨
      ∃ text middle after, c.render? = some text ∧ disk.Extends middle ∧
        middle.write (file home) (encodeText text) = .ok after ∧
        c.keep disk home = (.ok (), after) := by
  cases hmake : disk.makeDirectories (directory home) with
  | error fault => exact .inl ⟨_, disk, by rw [keep, hmake], .refl disk⟩
  | ok middle =>
    have hextends := Disk.extends_makeDirectories hmake
    cases htext : c.render? with
    | none => exact .inl ⟨_, middle, by rw [keep, hmake]; simp only [htext]; rfl, hextends⟩
    | some text =>
      cases hwrite : middle.write (file home) (encodeText text) with
      | error fault =>
        exact .inl ⟨_, middle, by rw [keep, hmake]; simp only [htext, hwrite]; rfl, hextends⟩
      | ok after =>
        exact .inr ⟨text, middle, after, rfl, hextends, hwrite,
          by rw [keep, hmake]; simp only [htext, hwrite]⟩

theorem load_of_write {c : Config} {text : List Char} {disk after : Disk} {home : Place}
    (hc : c.render? = some text) (h : disk.write (file home) (encodeText text) = .ok after) :
    load after home = .ok c := by
  obtain ⟨hholds, hread⟩ := Disk.read_of_write h
  rw [load]
  dsimp only
  rw [if_pos hholds, hread]
  dsimp only
  rw [decodeText_encodeText]
  dsimp only
  rw [parse_of_render? hc]

theorem load_of_keep {c : Config} {disk after : Disk} {home : Place}
    (h : c.keep disk home = (.ok (), after)) : load after home = .ok c := by
  rcases keep_cases c disk home with
    ⟨t, middle, hkeep, -⟩ | ⟨text, middle, last, hc, -, hwrite, hkeep⟩
  · rw [hkeep] at h
    cases h
  · rw [hkeep] at h
    obtain rfl := (Prod.mk.inj h).2
    exact load_of_write hc hwrite

theorem save_eq_ok_iff {c : Config} {disk after : Disk} {home : Place} :
    c.save disk home = .ok after ↔ c.keep disk home = (.ok (), after) := by
  rw [save]
  rcases c.keep disk home with ⟨_ | _, disk⟩ <;> simp [Except.map]

/-- A configuration that has been kept is loaded as it was, whatever was kept before. One whose
interval is no signed 64-bit integer is refused, and every file is left with its contents. -/
theorem load_after_save (c : Config) (disk : Disk) (home : Place) :
    (∀ after, c.save disk home = .ok after → load after home = .ok c) ∧
      (Number.signedLimit ≤ c.refreshInterval.toNat →
        ∃ t after, c.save disk home = .error t ∧ c.keep disk home = (.error t, after) ∧
          ∀ path bytes, after.lookup? path = some (.file bytes) ↔
            disk.lookup? path = some (.file bytes)) := by
  constructor
  · intro after h
    exact load_of_keep (save_eq_ok_iff.mp h)
  · intro hlimit
    have hnone : c.render? = none := by rw [render?, if_pos hlimit]
    rcases keep_cases c disk home with ⟨t, after, hkeep, hextends⟩ | ⟨text, _, _, hc, -⟩
    · exact ⟨t, after, by rw [save, hkeep]; rfl, hkeep, hextends.file_iff⟩
    · rw [hnone] at hc
      cases hc

/-- A configuration whose texts call for three styles of quotes and for an empty text. -/
def quotingConfig : Config :=
  { rpcUrl := some "\"\"\"\"\n\\\r\x7f", protocol := .rest, refreshInterval := 9223372036854775807
    filesUrl := some "C:\\\"x\"", logLevel := "" }

/-- An interval that is one too long. -/
def endlessConfig : Config :=
  { quotingConfig with refreshInterval := 9223372036854775808 }

def userHome : Place := ⟨"/home/u", ["home", "u"]⟩

/-- A disk on which something else is kept as the configuration. -/
def usedDisk : Disk :=
  ⟨[(["home", "u", ".config", "feedex", "config.toml"], .file [35]),
    (["home", "u", ".config", "feedex"], .directory), (["home", "u", ".config"], .directory),
    (["home", "u"], .directory), (["home"], .directory)]⟩

theorem load_after_save_quoting :
    (∃ after, quotingConfig.save usedDisk userHome = .ok after ∧
        load after userHome = .ok quotingConfig) ∧
      Number.signedLimit ≤ endlessConfig.refreshInterval.toNat ∧
      ∃ t after, endlessConfig.save usedDisk userHome = .error t ∧
        endlessConfig.keep usedDisk userHome = (.error t, after) ∧
        ∀ path bytes, after.lookup? path = some (.file bytes) ↔
          usedDisk.lookup? path = some (.file bytes) := by
  have hsaves : (quotingConfig.save usedDisk userHome).toOption.isSome = true := by
    decide +kernel
  obtain ⟨after, hafter⟩ := Option.isSome_iff_exists.mp hsaves
  have hsaved := Json.toOption_eq_some_iff.mp hafter
  have hlimit : Number.signedLimit ≤ endlessConfig.refreshInterval.toNat := by decide +kernel
  exact ⟨⟨after, hsaved, (load_after_save _ _ _).1 after hsaved⟩, hlimit,
    (load_after_save _ _ _).2 hlimit⟩

end FeedExplorer.Config
