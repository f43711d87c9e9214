import DatagramSession.Action
import DatagramSession.Client.Basic
import DatagramSession.Client.Connection
import DatagramSession.Client.Failure
import DatagramSession.CommandLine.ClientProgram
import DatagramSession.CommandLine.Options
import DatagramSession.CommandLine.ServerProgram
import DatagramSession.CommandLine.Socket
import DatagramSession.Duration
import DatagramSession.Errand
import DatagramSession.Main
import DatagramSession.Network.Address
import DatagramSession.Network.Host
import DatagramSession.Network.HostName
import DatagramSession.Network.IoError
import DatagramSession.Network.Lookup
import DatagramSession.Request
import DatagramSession.Response
import DatagramSession.Server.Basic
import DatagramSession.Server.Desk
import DatagramSession.Server.Failure
import DatagramSession.Server.Lifecycle
import DatagramSession.Server.Outbox
import DatagramSession.Server.Running
import DatagramSession.Server.Schedule
import DatagramSession.Server.Settings
import DatagramSession.Server.Trial
import DatagramSession.Session.Registry
import DatagramSession.Session.Table
import DatagramSession.SessionId
import DatagramSession.Text.Decimal
import DatagramSession.Text.IllFormed
import DatagramSession.Wire.Envelope
import DatagramSession.Wire.Fault
import DatagramSession.Wire.Field
import DatagramSession.Wire.Reader
import DatagramSession.Proofs.Server.Step
import DatagramSession.Proofs.Server.History
import DatagramSession.Proofs.Server.Issue
import DatagramSession.Proofs.Server.Intake
import DatagramSession.Proofs.Server.Stop
import DatagramSession.Proofs.Wire.Layout
import DatagramSession.Proofs.Wire.Request
import DatagramSession.Proofs.Server.ReplySize
import DatagramSession.Proofs.Wire.Response
import DatagramSession.Proofs.Client.Emptying
import DatagramSession.Proofs.Client.Receipt
import DatagramSession.Proofs.Server.Answer
import DatagramSession.Proofs.System.Basic
import DatagramSession.Proofs.System.Session
import DatagramSession.Proofs.Server.Oversight
import DatagramSession.Proofs.Server.Stages
import DatagramSession.Proofs.Server.Drain
import DatagramSession.Proofs.Server.Rest
import DatagramSession.Proofs.Client.Conversation
import DatagramSession.Proofs.Client.LateReply
import DatagramSession.Proofs.Server.Capacity
import DatagramSession.Proofs.Server.Noise
import DatagramSession.Proofs.System.Limit
import DatagramSession.Proofs.Server.Single
import DatagramSession.Proofs.System.Link
import DatagramSession.Proofs.System.Booked
import DatagramSession.Proofs.System.Phase
import DatagramSession.Proofs.System.Turns
import DatagramSession.Proofs.Wire.OnePass
import DatagramSession.Proofs.Session.Saves
import DatagramSession.Proofs.Server.Secrets
import DatagramSession.Proofs.Server.AllOrNothing
import DatagramSession.Proofs.Wire.Truncation
import DatagramSession.Proofs.Wire.Kind
import DatagramSession.Proofs.Session.Handling
import DatagramSession.Proofs.Session.Authority
import DatagramSession.Proofs.Server.Writer
import DatagramSession.Proofs.Server.GrantedShutdown
import DatagramSession.Proofs.Client.Stale
import DatagramSession.Proofs.System.OwnReply
import DatagramSession.Proofs.Client.HeldSession
import DatagramSession.Proofs.Server.Spawn
