import VirtualService.Main
import VirtualService.Proofs.Cycling
import VirtualService.Proofs.Reimport
import VirtualService.Text.Category
import VirtualService.Text.Property
import VirtualService.Proofs.Key
import VirtualService.Proofs.Readings
import VirtualService.Proofs.Recognition
import VirtualService.Proofs.History
import VirtualService.Proofs.Replay
import VirtualService.Proofs.Grouping
import VirtualService.Proofs.Http
import VirtualService.Proofs.Playback
import VirtualService.Proofs.Statistics
import VirtualService.Proofs.RequestLog
import VirtualService.Proofs.Configuration
import VirtualService.Proofs.Pairing
import VirtualService.Proofs.FullExport
import VirtualService.Proofs.Conservation
import VirtualService.Proofs.InFlight
import VirtualService.Proofs.WithoutProxies
import VirtualService.Proofs.Canonical
import VirtualService.Proofs.Strength
import VirtualService.Proofs.Presence
import VirtualService.Proofs.Navigation
import VirtualService.Proofs.Relevance
import VirtualService.Proofs.IgnoringCase
import VirtualService.Proofs.Selection
import VirtualService.Proofs.Commands
import VirtualService.Proofs.FirstMatch
import VirtualService.Proofs.Excerpt
import VirtualService.Proofs.Gathering
import VirtualService.Proofs.Parameters
import VirtualService.Proofs.Forwarding
import VirtualService.Proofs.Elements
import VirtualService.Proofs.Pending
import VirtualService.Proofs.Cursor
import VirtualService.Proofs.Held
import VirtualService.Proofs.Grammar
import VirtualService.Proofs.Descent
