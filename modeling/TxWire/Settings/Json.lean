import TxWire.Json.Decode
import TxWire.Json.Value
import TxWire.Settings.Basic

/-!
Settings and networks as JSON. Every field of the settings may be missing.
-/

namespace TxWire

open Json (Value)

namespace Network

def toJson (network : Network) : Value := .string network.name

/-- A network by its name. -/
def decode : Json.Decoder Network := Json.named ofName? names

end Network

namespace Settings

def toJson (s : Settings) : Value :=
  .object
    [ ("network", s.network.toJson),
      ("chain_id", (s.chainId.map Value.string).getD .null),
      ("expiration_seconds", .number s.expirationSeconds.toNat),
      ("max_net_usage_words", .number s.maxNetUsageWords.toNat),
      ("max_cpu_usage_ms", .number s.maxCpuUsageMs.toNat),
      ("delay_sec", .number s.delaySec.toNat)]

/-- Settings in JSON documents. -/
def record : Json.Record Draft Settings where
  name := "TransactionSettings"
  fields :=
    [ "network", "chain_id", "expiration_seconds", "max_net_usage_words", "max_cpu_usage_ms",
      "delay_sec"]
  strict := false
  draft := {}
  field? d name := match name with
    | "network" =>
      some (Json.field name d.network Network.decode fun x => { d with network := some x })
    | "chain_id" =>
      some (Json.field name d.chainId (Json.optional Json.string)
        fun x => { d with chainId := some x })
    | "expiration_seconds" =>
      some (Json.field name d.expirationSeconds Json.u32
        fun x => { d with expirationSeconds := some x })
    | "max_net_usage_words" =>
      some (Json.field name d.maxNetUsageWords Json.u32
        fun x => { d with maxNetUsageWords := some x })
    | "max_cpu_usage_ms" =>
      some (Json.field name d.maxCpuUsageMs Json.u8 fun x => { d with maxCpuUsageMs := some x })
    | "delay_sec" =>
      some (Json.field name d.delaySec Json.u32 fun x => { d with delaySec := some x })
    | _ => none
  finish d := .ok d.complete

end Settings

end TxWire
