import TxWire.Charset.Label
import TxWire.Pack.Program
import TxWire.Proofs.Charset.Ascii
import TxWire.Proofs.Charset.CodePage
import TxWire.Proofs.Digits
import TxWire.Proofs.Hex
import TxWire.Proofs.Json.RoundTrip
import TxWire.Proofs.Json.Skipping
import TxWire.Proofs.Layout.Blocks
import TxWire.Proofs.Layout.Charsets
import TxWire.Proofs.Layout.Outcome
import TxWire.Proofs.Layout.PrefixFree
import TxWire.Proofs.Layout.Program
import TxWire.Proofs.Layout.Remnant
import TxWire.Proofs.Layout.Size
import TxWire.Proofs.Settings.Building
import TxWire.Proofs.Settings.Overrides
import TxWire.Proofs.Settings.Toml
import TxWire.Proofs.Settings.Validation
import TxWire.Proofs.Signing.Freshness
import TxWire.Proofs.Signing.PushBody
import TxWire.Proofs.Signing.Reports
import TxWire.Proofs.Signing.Requests
import TxWire.Proofs.Time.TimePoint
import TxWire.Proofs.Toml.Document
import TxWire.Proofs.Transaction.Edits
import TxWire.Proofs.Transaction.HeaderMembers
import TxWire.Proofs.Transaction.HeaderUpdates
import TxWire.Proofs.Transaction.HexTexts
import TxWire.Proofs.Varint.Codec
import TxWire.Settings.Json
import TxWire.Settings.Load
import TxWire.Signing.Json
import TxWire.Transaction.Edit
import TxWire.Transaction.Json
