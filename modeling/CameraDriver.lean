import CameraDriver.Device.Manual
import CameraDriver.Hardware.Native
import CameraDriver.Hardware.Simulated
import CameraDriver.Session.Basic
import CameraDriver.Settings.Build
import CameraDriver.Value.Codec
import CameraDriver.Proofs.General
import CameraDriver.Proofs.Device.Change
import CameraDriver.Proofs.Device.Inversion
import CameraDriver.Proofs.Device.Exclusive
import CameraDriver.Proofs.Device.Coherence
import CameraDriver.Proofs.Device.Ledger
import CameraDriver.Proofs.Device.LinkLoss
import CameraDriver.Proofs.Device.Cancelled
import CameraDriver.Proofs.Device.Publishing
import CameraDriver.Proofs.Device.Uploads
import CameraDriver.Proofs.Device.History
import CameraDriver.Proofs.Device.Triggers
import CameraDriver.Proofs.Device.Effects
import CameraDriver.Proofs.Device.Requests
import CameraDriver.Proofs.Device.Retries
import CameraDriver.Proofs.Device.Overlap
import CameraDriver.Proofs.Client.Moves
import CameraDriver.Proofs.Client.Halt
import CameraDriver.Proofs.Client.Conservation
import CameraDriver.Proofs.Client.Stop
import CameraDriver.Proofs.Client.Refusal
import CameraDriver.Proofs.Client.Effects
import CameraDriver.Proofs.Client.Isolation
import CameraDriver.Proofs.Client.ActiveFeature
import CameraDriver.Proofs.Client.Budget
import CameraDriver.Proofs.Keyed
import CameraDriver.Proofs.Json.Members
import CameraDriver.Proofs.Number.Finite
import CameraDriver.Proofs.Json.Proper
import CameraDriver.Proofs.Store.Overlay
import CameraDriver.Proofs.Store.Edit
import CameraDriver.Proofs.Store.Histories
import CameraDriver.Proofs.Store.Settings
import CameraDriver.Proofs.Client.Repeat
import CameraDriver.Proofs.Client.Status
import CameraDriver.Proofs.Store.Nulls
import CameraDriver.Proofs.Settings.Setting
import CameraDriver.Proofs.Settings.Layers
import CameraDriver.Proofs.Settings.Precedence
import CameraDriver.Proofs.Number.Decimal
import CameraDriver.Proofs.Settings.Written
import CameraDriver.Proofs.Settings.Amounts
import CameraDriver.Proofs.Hardware.Codes
import CameraDriver.Proofs.Hardware.Loans
import CameraDriver.Proofs.Hardware.Caller
import CameraDriver.Proofs.Hardware.Devices
import CameraDriver.Proofs.Client.Devices
import CameraDriver.Proofs.Device.Codes
import CameraDriver.Proofs.Url.Ends
import CameraDriver.Proofs.Device.Canonical
import CameraDriver.Proofs.Value.Integer
import CameraDriver.Proofs.Value.Codec
import CameraDriver.Proofs.Text.Utf8
import CameraDriver.Proofs.Number.Numeral
import CameraDriver.Proofs.Device.MaxRetry
import CameraDriver.Proofs.Text.Base64
import CameraDriver.Proofs.Json.Written
import CameraDriver.Proofs.Device.Envelope
import CameraDriver.Proofs.Hardware.Simulated
import CameraDriver.Proofs.Hardware.Plays
import CameraDriver.Proofs.Device.Stored
import CameraDriver.Proofs.Device.Late
import CameraDriver.Proofs.Client.Scripted
import CameraDriver.Proofs.Client.LastWrite
import CameraDriver.Proofs.Hardware.HandleCount
import CameraDriver.Proofs.Number.Signed
import CameraDriver.Proofs.Text.Replacement
import CameraDriver.Proofs.Value.Wire
import CameraDriver.Proofs.Device.Grows
import CameraDriver.Proofs.Client.Known
import CameraDriver.Proofs.Device.Onward
import CameraDriver.Proofs.Device.Prompt
import CameraDriver.Proofs.Session.Runs
import CameraDriver.Proofs.Session.Waiting
import CameraDriver.Proofs.Session.Settled
import CameraDriver.Proofs.Session.Passing
import CameraDriver.Proofs.Session.Queue
