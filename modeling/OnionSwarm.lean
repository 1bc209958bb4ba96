import OnionSwarm.Api.Call
import OnionSwarm.Api.Failure
import OnionSwarm.Api.Scratch
import OnionSwarm.Api.Storage
import OnionSwarm.Backup.Loop
import OnionSwarm.Backup.Revision
import OnionSwarm.Batch.Execute
import OnionSwarm.Batch.Gather
import OnionSwarm.Batch.Rules
import OnionSwarm.Cli.Arguments
import OnionSwarm.Cli.Help
import OnionSwarm.Cli.Print
import OnionSwarm.Cli.Run
import OnionSwarm.Cli.Settings
import OnionSwarm.Client.Backup
import OnionSwarm.Client.Batching
import OnionSwarm.Client.Clock
import OnionSwarm.Client.Network
import OnionSwarm.Client.Paths
import OnionSwarm.Client.Pool
import OnionSwarm.Client.Retrying
import OnionSwarm.Client.Rpc
import OnionSwarm.Client.ServerApi
import OnionSwarm.Client.State
import OnionSwarm.Client.SwarmApi
import OnionSwarm.Client.Swarms
import OnionSwarm.Clock.Reading
import OnionSwarm.Clock.Sample
import OnionSwarm.Clock.Turns
import OnionSwarm.Config.Network
import OnionSwarm.Crypto.Blake3
import OnionSwarm.Crypto.ChaCha20
import OnionSwarm.Crypto.Chance
import OnionSwarm.Crypto.Ed25519
import OnionSwarm.Crypto.Edwards
import OnionSwarm.Crypto.Failure
import OnionSwarm.Crypto.Field
import OnionSwarm.Crypto.Identity
import OnionSwarm.Crypto.LayerCipher
import OnionSwarm.Crypto.Poly1305
import OnionSwarm.Crypto.SecretBox
import OnionSwarm.Crypto.Sha512
import OnionSwarm.Crypto.X25519
import OnionSwarm.Dice
import OnionSwarm.Directory.Failure
import OnionSwarm.Directory.Pool
import OnionSwarm.Directory.Rounds
import OnionSwarm.Directory.Swarm
import OnionSwarm.Job
import OnionSwarm.Json.Access
import OnionSwarm.Json.Numeral
import OnionSwarm.Json.Record
import OnionSwarm.Json.Render
import OnionSwarm.Json.Value
import OnionSwarm.Json.Written
import OnionSwarm.Main
import OnionSwarm.Node.Basic
import OnionSwarm.Node.Entry
import OnionSwarm.Node.Record
import OnionSwarm.Onion.Build
import OnionSwarm.Onion.Destination
import OnionSwarm.Onion.Exchange
import OnionSwarm.Onion.Failure
import OnionSwarm.Onion.Framing
import OnionSwarm.Onion.GuardReply
import OnionSwarm.Onion.Guards
import OnionSwarm.Onion.Path
import OnionSwarm.Onion.Peel
import OnionSwarm.Report.Failure
import OnionSwarm.Report.Node
import OnionSwarm.Report.Reply
import OnionSwarm.Retry.Policy
import OnionSwarm.Retry.Run
import OnionSwarm.Simulation.FileTree
import OnionSwarm.Simulation.Objects
import OnionSwarm.Simulation.Relays
import OnionSwarm.Simulation.Scenario
import OnionSwarm.Simulation.Script
import OnionSwarm.Simulation.Session
import OnionSwarm.Simulation.Terminal
import OnionSwarm.Simulation.Timeline
import OnionSwarm.Simulation.Words
import OnionSwarm.Store.Basic
import OnionSwarm.Store.Disk
import OnionSwarm.Store.Layout
import OnionSwarm.Store.Location
import OnionSwarm.Table
import OnionSwarm.Text.Base64
import OnionSwarm.Text.Blank
import OnionSwarm.Text.Bytes
import OnionSwarm.Text.Decimal
import OnionSwarm.Text.Hex
import OnionSwarm.Text.Quoted
import OnionSwarm.Text.Shortest
import OnionSwarm.Text.Upper
import OnionSwarm.Text.Utf8
import OnionSwarm.Proofs.Text.Hex
import OnionSwarm.Proofs.Text.Utf8
import OnionSwarm.Proofs.Text.Decimal
import OnionSwarm.Proofs.Json.Numbers
import OnionSwarm.Proofs.Json.Strings
import OnionSwarm.Proofs.Json.ReadBack
import OnionSwarm.Proofs.Node.Record
import OnionSwarm.Proofs.Onion.Framing
import OnionSwarm.Proofs.Onion.Layers
import OnionSwarm.Proofs.Onion.Room
import OnionSwarm.Proofs.Onion.Blame
import OnionSwarm.Proofs.Batch.Runs
import OnionSwarm.Proofs.Batch.Safety
import OnionSwarm.Proofs.Batch.Keys
import OnionSwarm.Proofs.Job
import OnionSwarm.Proofs.Dice
import OnionSwarm.Proofs.Onion.Guards
import OnionSwarm.Proofs.Node.Entry
import OnionSwarm.Proofs.Client.Paths
import OnionSwarm.Proofs.Store.Views
import OnionSwarm.Proofs.Store.Recall
import OnionSwarm.Proofs.Client.Keeps
import OnionSwarm.Proofs.Client.Errands
import OnionSwarm.Proofs.Client.Calls
import OnionSwarm.Proofs.Client.Refusals
import OnionSwarm.Proofs.Client.Membership
import OnionSwarm.Proofs.Client.Availability
import OnionSwarm.Proofs.Client.Rotation
import OnionSwarm.Proofs.Client.Penalties
import OnionSwarm.Proofs.Client.Batching
import OnionSwarm.Proofs.Onion.Messages
import OnionSwarm.Proofs.Clock.Turns
import OnionSwarm.Proofs.Clock.Found
import OnionSwarm.Proofs.Client.Resync
import OnionSwarm.Proofs.Retry.History
import OnionSwarm.Proofs.Client.Attempts
import OnionSwarm.Proofs.Client.Redirects
import OnionSwarm.Proofs.Client.Stamps
import OnionSwarm.Proofs.Client.SingleAttempt
import OnionSwarm.Proofs.Client.Complaints
import OnionSwarm.Proofs.Client.Orderly
import OnionSwarm.Proofs.Client.Directories
import OnionSwarm.Proofs.Onion.RoundTrip
import OnionSwarm.Proofs.Onion.Sealings
import OnionSwarm.Proofs.Onion.Exchange
import OnionSwarm.Proofs.Client.Unreachable
import OnionSwarm.Proofs.Json.Records
import OnionSwarm.Proofs.Backup.Notifications
import OnionSwarm.Proofs.Diary
import OnionSwarm.Proofs.Client.Alongside
import OnionSwarm.Proofs.Backup.Rounds
import OnionSwarm.Proofs.Directory.Rounds
import OnionSwarm.Proofs.Client.Stretches
import OnionSwarm.Proofs.Client.Spread
import OnionSwarm.Proofs.Config.Network
import OnionSwarm.Proofs.Cli.Settings
import OnionSwarm.Proofs.Batch.Served
import OnionSwarm.Proofs.Clock.Middle
import OnionSwarm.Proofs.Clock.Exact
import OnionSwarm.Proofs.Client.Sampling
import OnionSwarm.Proofs.Client.Refills
import OnionSwarm.Proofs.Client.Crowds
import OnionSwarm.Proofs.Client.Bootstraps
import OnionSwarm.Proofs.Directory.Picks
import OnionSwarm.Proofs.Retry.Tries
import OnionSwarm.Proofs.Client.Retries
import OnionSwarm.Proofs.Client.Corrections
import OnionSwarm.Proofs.Client.Findings
import OnionSwarm.Proofs.Client.TopUps
import OnionSwarm.Proofs.Node.Hosts
import OnionSwarm.Proofs.Config.Valid
import OnionSwarm.Proofs.Cli.Sizes
import OnionSwarm.Proofs.Api.Payloads
import OnionSwarm.Proofs.Node.Listing
