import EventHub.Gateway.Basic
import EventHub.Hub.Summary
import EventHub.Node.LogFormat
import EventHub.Node.Socket
import EventHub.Proofs.Auth.Extraction
import EventHub.Proofs.Auth.Presenting
import EventHub.Proofs.Gateway.Agreement
import EventHub.Proofs.Gateway.Version
import EventHub.Proofs.Hub.Command
import EventHub.Proofs.Hub.Hysteresis
import EventHub.Proofs.Hub.Isolation
import EventHub.Proofs.Hub.Racing
import EventHub.Proofs.Json.Codec
import EventHub.Proofs.Live.Accounting
import EventHub.Proofs.Live.Confidentiality
import EventHub.Proofs.Live.Crossings
import EventHub.Proofs.Live.Delivery
import EventHub.Proofs.Live.Fanout
import EventHub.Proofs.Live.Lifecycle
import EventHub.Proofs.Live.Membership
import EventHub.Proofs.Live.Monitoring
import EventHub.Proofs.Live.Output
import EventHub.Proofs.Live.Replay
import EventHub.Proofs.Live.Shutdown
import EventHub.Proofs.Live.Statistics
import EventHub.Proofs.Live.Teardown
import EventHub.Proofs.Node.Admission
import EventHub.Proofs.Node.Envelope
import EventHub.Proofs.Node.Ingestion
import EventHub.Proofs.Relay.Safety
import EventHub.Proofs.Relay.Transparency
import EventHub.Proofs.Session.Listening
import EventHub.Settings.Gateway
import EventHub.Settings.Node
