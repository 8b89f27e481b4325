import Enip.Address
import Enip.Address.Reader
import Enip.Address.V4
import Enip.Address.V6
import Enip.Backoff
import Enip.Bytes
import Enip.Connection.Event
import Enip.Connection.Exchange
import Enip.Connection.Framing
import Enip.Connection.Lifecycle
import Enip.Connection.Operation
import Enip.Connection.State
import Enip.Duration
import Enip.Error
import Enip.Error.Frame
import Enip.Error.Io
import Enip.Error.Link
import Enip.Frame.Buffer
import Enip.Frame.Command
import Enip.Frame.Dump
import Enip.Frame.Header
import Enip.Frame.Status
import Enip.Json.Number
import Enip.Json.Skip
import Enip.Json.Text
import Enip.Link.Binding
import Enip.Link.Datagram
import Enip.Link.Stream
import Enip.Number.Rounding
import Enip.Proofs.Alignment
import Enip.Proofs.AnswerAlike
import Enip.Proofs.Answering
import Enip.Proofs.Arrivals
import Enip.Proofs.Attempts
import Enip.Proofs.Balance
import Enip.Proofs.ByHand
import Enip.Proofs.Contents
import Enip.Proofs.Delays
import Enip.Proofs.Dumps
import Enip.Proofs.EmptyDatagrams
import Enip.Proofs.Entries
import Enip.Proofs.Excess
import Enip.Proofs.Failures
import Enip.Proofs.Frames
import Enip.Proofs.Framing
import Enip.Proofs.Handshake
import Enip.Proofs.Headers
import Enip.Proofs.JsonNumbers
import Enip.Proofs.JsonTexts
import Enip.Proofs.JsonValues
import Enip.Proofs.Ledger
import Enip.Proofs.Lifecycle
import Enip.Proofs.Millis
import Enip.Proofs.Overflow
import Enip.Proofs.OwnReply
import Enip.Proofs.Reassembly
import Enip.Proofs.Rebinding
import Enip.Proofs.Replies
import Enip.Proofs.Retrying
import Enip.Proofs.Reuse
import Enip.Proofs.RoundTrip
import Enip.Proofs.Rounding
import Enip.Proofs.Serving
import Enip.Proofs.SettingsJson
import Enip.Proofs.Simulation
import Enip.Proofs.Teardown
import Enip.Proofs.Transcripts
import Enip.Proofs.Truncation
import Enip.Proofs.Verdicts
import Enip.Proofs.Watching
import Enip.Random.ChaCha
import Enip.Random.Draws
import Enip.Rehearsal.Device
import Enip.Rehearsal.Request
import Enip.Request.Basic
import Enip.Request.Encapsulated
import Enip.Request.Session
import Enip.Settings.Basic
import Enip.Settings.Json
import Enip.Text.Hex
import Enip.Text.Numeral
