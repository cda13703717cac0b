import TxWire.Proofs.Toml.Document
import TxWire.Settings.Load

/-!
Settings come back from the TOML that they are written as.

* `Settings.rows`: the lines of that document. `toToml_eq` and `ofEntries_rows` tie them to writing
  and to reading.
* `toml_round_trip`: what reading the document comes to, for all settings, valid or not.
-/

namespace TxWire

open Toml (Row BareKey)

namespace Settings

/-- The lines of settings. -/
def rows (s : Settings) : List Row :=
  .ofString "network" s.network.name
    :: ((s.chainId.map (Row.ofString "chain_id")).toList
      ++ [.ofNat "expiration_seconds" s.expirationSeconds.toNat,
        .ofNat "max_net_usage_words" s.maxNetUsageWords.toNat,
        .ofNat "max_cpu_usage_ms" s.maxCpuUsageMs.toNat,
        .ofNat "delay_sec" s.delaySec.toNat])

lemma toToml_eq (s : Settings) : s.toToml = String.ofList (s.rows.flatMap Row.line) := by
  rw [toToml, rows]
  cases s.chainId <;> simp [line, Row.line, Row.ofString, Row.ofNat]

lemma sound_of_mem_rows (s : Settings) : ∀ row ∈ s.rows, row.Sound := by
  have hu32 (n : UInt32) : (n.toNat : ℤ) < Toml.integerBound := by
    have := n.toNat_lt
    rw [Toml.integerBound]
    omega
  have hu8 (n : UInt8) : (n.toNat : ℤ) < Toml.integerBound := by
    have := n.toNat_lt
    rw [Toml.integerBound]
    omega
  intro row hrow
  simp only [rows, List.mem_cons, List.mem_append, Option.mem_toList, Option.map_eq_some_iff,
    List.not_mem_nil, or_false] at hrow
  obtain rfl | ⟨id, -, rfl⟩ | rfl | rfl | rfl | rfl := hrow
  · exact Row.sound_ofString ⟨by decide, by decide⟩ _
  · exact Row.sound_ofString ⟨by decide, by decide⟩ _
  · exact Row.sound_ofNat ⟨by decide, by decide⟩ (hu32 _)
  · exact Row.sound_ofNat ⟨by decide, by decide⟩ (hu32 _)
  · exact Row.sound_ofNat ⟨by decide, by decide⟩ (hu8 _)
  · exact Row.sound_ofNat ⟨by decide, by decide⟩ (hu32 _)

lemma nodup_keys_rows (s : Settings) : (s.rows.map Row.key).Nodup := by
  rw [rows]
  cases s.chainId with
  | none => exact (by decide : ["network", "expiration_seconds", "max_net_usage_words",
      "max_cpu_usage_ms", "delay_sec"].Nodup)
  | some id => exact (by decide : ["network", "chain_id", "expiration_seconds",
      "max_net_usage_words", "max_cpu_usage_ms", "delay_sec"].Nodup)

lemma parse?_toToml (s : Settings) : Toml.parse? s.toToml = some (s.rows.map Row.entry) := by
  rw [toToml_eq, Toml.parse?_rows s.sound_of_mem_rows s.nodup_keys_rows]

/-! ### Fields -/

lemma below_toNat {limit n : ℕ} (expected : String) (h : n < limit) :
    Toml.below limit expected (.integer n) = .ok n := by
  show Decode.below limit expected n = _
  rw [Decode.below, if_pos (by omega), Int.toNat_natCast]

lemma u32_toNat (n : UInt32) : Toml.u32 (.integer n.toNat) = .ok n := by
  rw [Toml.u32, below_toNat "u32" n.toNat_lt]
  show Except.ok (UInt32.ofNat n.toNat) = _
  rw [UInt32.ofNat_toNat]

lemma u8_toNat (n : UInt8) : Toml.u8 (.integer n.toNat) = .ok n := by
  rw [Toml.u8, below_toNat "u8" n.toNat_lt]
  show Except.ok (UInt8.ofNat n.toNat) = _
  rw [UInt8.ofNat_toNat]

lemma named_name (network : Network) :
    Toml.named Network.ofName? Network.names (.string network.name) = .ok network := by
  cases network <;> rfl

/-- The entries of the lines make the settings again. -/
lemma ofEntries_rows (s : Settings) : ofEntries (s.rows.map Row.entry) = .ok s := by
  obtain ⟨network, chainId, expirationSeconds, maxNetUsageWords, maxCpuUsageMs, delaySec⟩ := s
  cases chainId <;>
  · simp only [rows, Option.map_none, Option.map_some, Option.toList_none, Option.toList_some,
      List.nil_append, List.cons_append, List.map_cons, List.map_nil, ofEntries, List.foldlM_cons,
      List.foldlM_nil, Row.entry, Row.ofString, Row.ofNat, Draft.takeIn, named_name, u32_toNat,
      u8_toNat]
    rfl

end Settings

/-- **Settings survive their own TOML**, whatever their chain id is: the document that they are
written as is read as the same settings if they are valid, and else refused for what makes them
invalid. It always parses. -/
theorem toml_round_trip (s : Settings) : (Settings.ofToml s.toToml).value
    = match s.validate with
      | .ok () => .ok s
      | .error fault => .error (.invalid fault) := by
  rw [Settings.ofToml, Settings.parse?_toToml]
  dsimp only
  rw [Settings.ofEntries_rows]
  dsimp only
  cases s.validate with
  | ok u => rfl
  | error fault => rfl

end TxWire
