import TxWire.Proofs.Hex
import TxWire.Settings.Load

/-!
Settings are valid exactly if transactions can be signed with them and do not expire at once.

The check of a chain id looks at the length and the digits of its text, while the signing path
reads the text and looks at the length of what it says; `isChainIdText_iff` says that both accept
the same texts.

* `Settings.Usable`: what validity is for, said with the signing path alone.
* `validate_eq_ok_iff_usable`: valid settings are the usable ones, their chain id is the given
  text in lower case, and whatever is loaded is usable.
-/

namespace TxWire

/-! ### Chain ids -/

/-- A text is read as an identifier if it says as many bytes as one has. -/
lemma Digest.exists_parse_iff {text : String} : (∃ id, Digest.parse text = .ok id) ↔
    ∃ data, Hex.decode text = .ok data ∧ data.length = digestSize := by
  rw [Digest.parse]
  cases Hex.decode text with
  | error fault => simp
  | ok data =>
      by_cases h : data.length = digestSize
      · exact iff_of_true ⟨⟨data, h⟩, dif_pos h⟩ ⟨data, rfl, h⟩
      · simp [h]

/-- A text is read as an identifier if it has two digits for each byte of one. -/
lemma Digest.exists_parse_iff_codes {text : String} : (∃ id, Digest.parse text = .ok id) ↔
    (utf8Bytes text).length = 2 * digestSize
      ∧ ∀ code ∈ utf8Bytes text, Hex.isDigitCode code = true := by
  rw [exists_parse_iff]
  constructor
  · rintro ⟨data, hdata, hsize⟩
    have := Hex.length_of_decode hdata
    exact ⟨by omega, (Hex.exists_decode_iff.mp ⟨data, hdata⟩).2⟩
  · rintro ⟨hlength, hcodes⟩
    obtain ⟨data, hdata⟩ := Hex.exists_decode_iff.mpr ⟨by omega, hcodes⟩
    have := Hex.length_of_decode hdata
    exact ⟨data, hdata, by omega⟩

/-- An identifier has the bytes that its text says. -/
lemma Digest.decode_of_parse {text : String} {id : Digest} (h : Digest.parse text = .ok id) :
    Hex.decode text = .ok id.bytes := by
  rw [Digest.parse] at h
  cases hdecode : Hex.decode text with
  | error fault => rw [hdecode] at h; exact absurd h (by simp)
  | ok data =>
      rw [hdecode] at h
      by_cases hsize : data.length = digestSize
      · simp only [hsize, ↓reduceDIte, Except.ok.injEq] at h
        rw [← h]
      · simp [hsize] at h

/-- An identifier is written as the text that it was read from, in lower case. -/
lemma Digest.hex_of_parse {text : String} {id : Digest} (h : Digest.parse text = .ok id) :
    id.hex = text.map Char.toLower := by
  rw [Digest.hex, Hex.encode_of_decode (decode_of_parse h)]

lemma ChainId.parse_eq_ok_iff {text : String} {id : ChainId} :
    ChainId.parse text = .ok id ↔ Digest.parse text = .ok id := by
  rw [ChainId.parse]
  cases Digest.parse text <;> simp [Except.mapError]

namespace Settings

/-- The length and the digits of a text tell whether it is read as a chain id. -/
lemma isChainIdText_iff {text : String} :
    isChainIdText text = true ↔ ∃ id, ChainId.parse text = .ok id := by
  rw [isChainIdText, Bool.and_eq_true, decide_eq_true_eq, List.all_eq_true,
    ← Digest.exists_parse_iff_codes]
  exact exists_congr fun id => ChainId.parse_eq_ok_iff.symm

/-! ### Settings -/

/-- Transactions built from the settings do not expire at once, and there is a chain id to sign
them for. -/
def Usable (s : Settings) : Prop :=
  s.expirationSeconds ≠ 0 ∧ ∃ id, s.resolveChainId = .ok id

lemma validate_eq_ok_iff (s : Settings) : s.validate = .ok () ↔ s.Usable := by
  rw [validate, Usable, resolveChainId]
  by_cases hzero : s.expirationSeconds = 0
  · simp [hzero]
  · rw [if_neg hzero, and_iff_right hzero]
    cases s.chainIdText? with
    | none => simp
    | some text =>
        dsimp only
        rw [← isChainIdText_iff]
        cases isChainIdText text <;> simp

/-- The chain id of settings is written as their text in lower case. -/
lemma hex_of_resolveChainId {s : Settings} {id : ChainId} (h : s.resolveChainId = .ok id) :
    s.chainIdText?.map (String.map Char.toLower) = some id.hex := by
  rw [resolveChainId] at h
  cases htext : s.chainIdText? with
  | none => rw [htext] at h; exact absurd h (by simp)
  | some text =>
      rw [htext] at h
      rw [Option.map_some, Digest.hex_of_parse (ChainId.parse_eq_ok_iff.mp h)]

/-! ### What is loaded -/

lemma usable_default : Usable {} := by
  rw [← validate_eq_ok_iff]
  decide +kernel

/-- Settings that are read have been checked. -/
lemma usable_of_ofToml {text : String} {s : Settings} (h : (ofToml text).value = .ok s) :
    s.Usable := by
  rw [ofToml] at h
  cases hparse : Toml.parse? text with
  | none => rw [hparse] at h; exact absurd h (by simp)
  | some entries =>
      rw [hparse] at h
      dsimp only at h
      cases hentries : ofEntries entries with
      | error e => rw [hentries] at h; exact absurd h (by simp)
      | ok settings =>
          rw [hentries] at h
          dsimp only at h
          cases hvalid : settings.validate with
          | error fault => rw [hvalid] at h; exact absurd h (by simp)
          | ok u =>
              rw [hvalid] at h
              have hs : settings = s := Except.ok.inj h
              rw [← hs, ← validate_eq_ok_iff, hvalid]

/-- A file that was written in UTF-8 is read as its text. -/
lemma load_utf8Bytes (text : String) : load (some (utf8Bytes text)) = ofToml text := by
  have htext : ofUtf8? (utf8Bytes text) = some text := by
    rw [ofUtf8?, utf8Bytes_eq_data, Array.toArray_toList]
    show String.fromUTF8? text.toByteArray = some text
    rw [String.fromUTF8?, dif_pos text.isValidUTF8]
    rfl
  rw [load, htext]

lemma usable_of_load {file : Option (List UInt8)} {s : Settings}
    (h : (load file).value = .ok s) : s.Usable := by
  cases file with
  | none => exact absurd h (by simp [load])
  | some bytes =>
      rw [load] at h
      cases htext : ofUtf8? bytes with
      | none => rw [htext] at h; exact absurd h (by simp)
      | some text => rw [htext] at h; exact usable_of_ofToml h

lemma usable_of_loadOrDefault {file : Option (List UInt8)} {s : Settings}
    (h : (loadOrDefault file).value = .ok s) : s.Usable := by
  cases file with
  | none =>
      have hs : ({} : Settings) = s := Except.ok.inj h
      rw [← hs]
      exact usable_default
  | some bytes => exact usable_of_load h

end Settings

/-- **Validity is what the signing path needs**: settings are valid exactly if they leave
transactions some time and name a chain id that can be read; its text is then the given one in
lower case. All settings that are read from a text or a file, and the defaults that stand in for
a missing file, are so. -/
theorem validate_eq_ok_iff_usable :
    (∀ s : Settings, s.validate = .ok () ↔
      s.expirationSeconds ≠ 0 ∧ ∃ id, s.resolveChainId = .ok id)
    ∧ (∀ (s : Settings) (id : ChainId), s.resolveChainId = .ok id →
      s.chainIdText?.map (String.map Char.toLower) = some id.hex)
    ∧ (∀ (text : String) (s : Settings), (Settings.ofToml text).value = .ok s → s.Usable)
    ∧ (∀ (file : Option (List UInt8)) (s : Settings),
      (Settings.load file).value = .ok s → s.Usable)
    ∧ ∀ (file : Option (List UInt8)) (s : Settings),
      (Settings.loadOrDefault file).value = .ok s → s.Usable :=
  ⟨Settings.validate_eq_ok_iff, fun _ _ => Settings.hex_of_resolveChainId,
    fun _ _ => Settings.usable_of_ofToml, fun _ _ => Settings.usable_of_load,
    fun _ _ => Settings.usable_of_loadOrDefault⟩

/-- The chain id of the main network in upper case, given for a network without one of its own:
read from a text and from a file, and written in lower case. Without a file there are the
defaults. -/
theorem validate_eq_ok_iff_usable_upper_case :
    let id := "384DA888112027F0321850A169F737C33E53B388AAD48B5ADACE4BAB97F437E0"
    let s : Settings := { network := .custom, chainId := some id }
    let file := some (utf8Bytes s.toToml)
    (Settings.ofToml s.toToml).value = .ok s ∧ (Settings.load file).value = .ok s
      ∧ s.Usable ∧ (∃ chain, s.resolveChainId = .ok chain ∧ chain.hex = mainnetChainId)
      ∧ (Settings.loadOrDefault none).value = .ok {} ∧ Settings.Usable {} := by
  intro id s file
  have htext : (Settings.ofToml s.toToml).value = .ok s := by decide +kernel
  have hfile : (Settings.load file).value = .ok s := by rw [Settings.load_utf8Bytes, htext]
  obtain ⟨-, hhex, hofToml, hload, hloadOrDefault⟩ := validate_eq_ok_iff_usable
  obtain ⟨-, chain, hchain⟩ := hofToml s.toToml s htext
  have hlower : (some id).map (String.map Char.toLower) = some mainnetChainId := by decide +kernel
  have hhex : chain.hex = mainnetChainId :=
    Option.some.inj ((hhex s chain hchain).symm.trans hlower)
  exact ⟨htext, hfile, hload file s hfile, ⟨chain, hchain, hhex⟩, rfl, hloadOrDefault none {} rfl⟩

end TxWire
