import WebviewHost.Bridge.Memory
import WebviewHost.Bridge.Slot
import WebviewHost.Main
import WebviewHost.Proofs.Bridge.Interleaving
import WebviewHost.Proofs.Bridge.Prompts
import WebviewHost.Proofs.Bridge.Refusal
import WebviewHost.Proofs.Bridge.Rehearsal
import WebviewHost.Proofs.Bridge.Script
import WebviewHost.Proofs.Bridge.Selection
import WebviewHost.Proofs.Bridge.Slot
import WebviewHost.Proofs.Cli.FeedingBack
import WebviewHost.Proofs.Cli.Reporting
import WebviewHost.Proofs.Cli.Shorthands
import WebviewHost.Proofs.Files.Replacement
import WebviewHost.Proofs.Forward.Destination
import WebviewHost.Proofs.Http.HopByHop
import WebviewHost.Proofs.Routes.Ambiguity
import WebviewHost.Proofs.Routes.Canonical
import WebviewHost.Proofs.Server.Confinement
import WebviewHost.Proofs.Server.Pages
import WebviewHost.Proofs.Server.Resolution
import WebviewHost.Proofs.Server.StaticFiles
import WebviewHost.Proofs.Server.Transparency
import WebviewHost.Proofs.Settings.Opening
import WebviewHost.Proofs.Settings.Privacy
