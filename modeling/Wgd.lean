import Wgd.Dns.Repair
import Wgd.Store.Ownership
import Wgd.Store.Overriding
import Wgd.Store.Serving
import Wgd.Store.Adopting
import Wgd.Store.Refreshing
import Wgd.Daemon.Watching
import Wgd.Status.WgShow
import Wgd.Completion.StartupFile
import Wgd.Doctor.Masking
import Wgd.Doctor.Addresses
import Wgd.Doctor.Places
import Wgd.Doctor.Pieces
import Wgd.Doctor.Lines
import Wgd.Net.Reading
import Wgd.Doctor.Secrecy
import Wgd.Doctor.Anchors
import Wgd.Doctor.Labels
import Wgd.Doctor.Redaction
import Wgd.Store.Disk
import Wgd.Encoding.Json
import Wgd.Encoding.Base64
import Wgd.Config.Endpoints
import Wgd.Links.Completion
import Wgd.Net.Splitting
import Wgd.Links.Pruning
import Wgd.Config.Identity
import Wgd.Links.Containment
import Wgd.Store.Hooks
import Wgd.Config.Resolving
import Wgd.Interaction.Transcript
import Wgd.Config.MtuOverride
import Wgd.Config.Restyling
import Wgd.Config.Sections
import Wgd.Routes.Expansion
import Wgd.Client.InStep
import Wgd.Client.Session
import Wgd.Helper.Undoing
import Wgd.Store.Leftovers
import Wgd.Client.Adding
import Wgd.Links.Merging
import Wgd.Interaction.Parallel
import Wgd.Daemon.Waiting
import Wgd.Daemon.Framing
import Wgd.Helper.Overview
import Wgd.Routes.Pinning
import Wgd.Routes.Bypassing
import Wgd.Net.Containment
import Wgd.Net.Display
import Wgd.Helper.Degraded
import Wgd.Routes.Remembering
import Wgd.Store.Tending
import Wgd.Store.Passage
import Wgd.Store.Representation
import Wgd.Store.Gate
import Wgd.Links.Validation
import Wgd.Store.Boot
import Wgd.Store.Sticky
import Wgd.Store.Script
import Wgd.Daemon.Exit
import Wgd.Dns.Conservation
import Wgd.Dns.Convergence
import Wgd.Dns.Crashes
import Wgd.Dns.KeyConvergence
import Wgd.Dns.Recovery
import Wgd.Dns.Retry
import Wgd.Dns.Script
import Wgd.Dns.Sentinel
import Wgd.Dns.SweepSafety
import Wgd.Dns.WriteAhead
import Wgd.Routes.Ownership
import Wgd.Routes.Takeover
import Wgd.Client.Effects
import Wgd.Client.Superseding
