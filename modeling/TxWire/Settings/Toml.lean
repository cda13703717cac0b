import TxWire.Settings.Basic
import TxWire.Toml.Decode
import TxWire.Toml.Reader

/-!
Settings as TOML: one line for each field when written; in any order, with any field missing, and
among other entries when read.
-/

namespace TxWire.Settings

open Toml (Item Entries)

/-- One line of a document. -/
def line (key : String) (value : List Char) : List Char :=
  key.toList ++ [' ', '=', ' '] ++ value ++ ['\n']

/-- Settings as a document. A chain id that is not given is left out. -/
def toToml (s : Settings) : String :=
  let natural (n : Nat) := Nat.toDigits 10 n
  let chainId := match s.chainId with
    | some text => line "chain_id" (Toml.stringText text)
    | none => []
  String.ofList
    (line "network" (Toml.stringText s.network.name) ++ chainId ++
      line "expiration_seconds" (natural s.expirationSeconds.toNat) ++
      line "max_net_usage_words" (natural s.maxNetUsageWords.toNat) ++
      line "max_cpu_usage_ms" (natural s.maxCpuUsageMs.toNat) ++
      line "delay_sec" (natural s.delaySec.toNat))

/-- Takes in one entry. Those that are no fields of settings are passed over. -/
def Draft.takeIn (d : Draft) (key : String) (item : Item) : Except Decode.Error Draft :=
  match key with
  | "network" => do
    return { d with network := some (← Toml.named Network.ofName? Network.names item) }
  | "chain_id" => do return { d with chainId := some (some (← Toml.string item)) }
  | "expiration_seconds" => do return { d with expirationSeconds := some (← Toml.u32 item) }
  | "max_net_usage_words" => do return { d with maxNetUsageWords := some (← Toml.u32 item) }
  | "max_cpu_usage_ms" => do return { d with maxCpuUsageMs := some (← Toml.u8 item) }
  | "delay_sec" => do return { d with delaySec := some (← Toml.u32 item) }
  | _ => .ok d

/-- Takes settings out of the entries of a document, in their order. -/
def ofEntries (entries : Entries) : Except Decode.Error Settings := do
  let draft ← entries.foldlM (fun d (key, item) => Draft.takeIn d key item) {}
  return draft.complete

end TxWire.Settings
