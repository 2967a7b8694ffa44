import SshKnock.Core.HashMap
import SshKnock.Core.Journal
import SshKnock.Core.Sharded
import SshKnock.Core.SwapRemove
import SshKnock.Core.Text
import SshKnock.Core.TextFields
import SshKnock.Core.PrintedText
import SshKnock.Core.Fallible
import SshKnock.Core.Recovery
import SshKnock.Core.RuleChain
import SshKnock.Core.Quota
import SshKnock.Time
import SshKnock.Net.Address
import SshKnock.Config
import SshKnock.Firewall.Commands
import SshKnock.Firewall.SystemRunner
import SshKnock.Firewall.Host
import SshKnock.Firewall.Convergence
import SshKnock.Firewall.Policy
import SshKnock.RateLimit
import SshKnock.RateLimit.Isolation
import SshKnock.RateLimit.Metering
import SshKnock.RateLimit.Allowance
import SshKnock.RateLimit.Representation
import SshKnock.RateLimit.Credit
import SshKnock.RateLimit.Burst
import SshKnock.RateLimit.Ceiling
import SshKnock.Logger
import SshKnock.Update.Manifest
import SshKnock.Update.Release
import SshKnock.Update.Install
import SshKnock.Update.Distribution
import SshKnock.Update.Verified
import SshKnock.Update.Outcome
import SshKnock.Knock.Tracker
import SshKnock.Knock.Slot
import SshKnock.Knock.Refinement
import SshKnock.Knock.Soundness
import SshKnock.Knock.Isolation
import SshKnock.Knock.Completeness
import SshKnock.Knock.Ambiguity
import SshKnock.Knock.Representation
import SshKnock.Server.Packet
import SshKnock.Server.Run
import SshKnock.Server.Allow
import SshKnock.Server.Bans
import SshKnock.Server.Memory
import SshKnock.Server.BanWindow
import SshKnock.Server.PollLoop
import SshKnock.Server.PendingPass
import SshKnock.Server.LoopRule
import SshKnock.Server.HandledOnce
import SshKnock.Server.AcceptanceOrder
import SshKnock.Server.Chronicle
import SshKnock.Server.ArrivalOrder
import SshKnock.Server.ClockRange
import SshKnock.Server.Redaction
import SshKnock.Server.StartUpLog
import SshKnock.Server.Steering
import SshKnock.Server.BanThreshold
import SshKnock.Server.ByteStream
import SshKnock.Server.ConnectionStage
import SshKnock.Server.Segmentation
import SshKnock.Server.Serving
import SshKnock.Core.Coupled
import SshKnock.Server.LoopPair
import SshKnock.Server.Clipping
import SshKnock.Server.Stealth
import SshKnock.Server.AuditTrail
import SshKnock.Server.PassCost
import SshKnock.Server.Rates
import SshKnock.Server.Flood
import SshKnock.System.Kernel
import SshKnock.System.Entries
import SshKnock.System.Run
import SshKnock.System.Grants
import SshKnock.System.Admission
import SshKnock.System.StartUp
import SshKnock.System.BanAgreement
import SshKnock.System.Availability
import SshKnock.System.Neighbours
import SshKnock.System.Uptime
import SshKnock.System.Loop
