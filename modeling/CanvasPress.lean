import CanvasPress.CommandLine.Memory
import CanvasPress.Main
import CanvasPress.Proofs.Engine.Failure
import CanvasPress.Proofs.Governor.Balance
import CanvasPress.Proofs.Governor.Conservation
import CanvasPress.Proofs.Engine.Launches
import CanvasPress.Proofs.Cache.Key
import CanvasPress.Proofs.Cache.History
import CanvasPress.Proofs.Engine.Answers
import CanvasPress.Proofs.Press.Moves
import CanvasPress.Proofs.Press.Chronicle
import CanvasPress.Proofs.Press.Coherence
import CanvasPress.Proofs.Press.Lookup
import CanvasPress.Proofs.Press.Sweeping
import CanvasPress.Proofs.Engine.Callers
import CanvasPress.Proofs.Press.Printing
import CanvasPress.Proofs.Press.Degradation
import CanvasPress.Proofs.Template.Occurrence
import CanvasPress.Proofs.Template.Substitution
import CanvasPress.Proofs.Compose.Values
import CanvasPress.Proofs.Compose.Skeleton
import CanvasPress.Proofs.Text.Squeeze
import CanvasPress.Proofs.Template.Builtin
import CanvasPress.Proofs.Compose.Delivery
import CanvasPress.Proofs.Governor.Drain
import CanvasPress.Proofs.Press.Batches
import CanvasPress.Proofs.Codec.RoundTrip
import CanvasPress.Proofs.Press.Retiming
import CanvasPress.Proofs.Press.Tally
import CanvasPress.Proofs.Press.Barrier
import CanvasPress.Proofs.Cache.Timeline
import CanvasPress.Proofs.Engine.Handles
import CanvasPress.Proofs.Engine.FirstUse
import CanvasPress.Proofs.Engine.Misprints
import CanvasPress.Proofs.Press.Misprints
import CanvasPress.Proofs.Text.Words
import CanvasPress.Proofs.Template.Lookup
import CanvasPress.Proofs.Template.Enumeration
import CanvasPress.Proofs.Template.Leftovers
import CanvasPress.Proofs.Compose.Unresolved
import CanvasPress.Proofs.Template.Braces
import CanvasPress.Proofs.Template.Outline
import CanvasPress.Proofs.Compose.Completeness
import CanvasPress.Proofs.Press.Provenance
import CanvasPress.Proofs.Press.Labels
import CanvasPress.Proofs.Engine.Hopeless
import CanvasPress.Proofs.Engine.Handover
import CanvasPress.Proofs.Press.Pages
import CanvasPress.Proofs.Press.StandIn
import CanvasPress.Proofs.Press.Opening
import CanvasPress.Proofs.Governor.Admission
import CanvasPress.Proofs.Press.Crowds
import CanvasPress.Proofs.Markup.Draft
import CanvasPress.Proofs.Markup.Legality
import CanvasPress.Proofs.Markup.Reading
import CanvasPress.Proofs.Compose.Canvas
import CanvasPress.Proofs.Compose.Wellformed
import CanvasPress.Proofs.Drawing.Number
import CanvasPress.Proofs.Drawing.Expansion
import CanvasPress.Proofs.Drawing.Canvas
import CanvasPress.Proofs.Press.Pictures
import CanvasPress.Proofs.Cache.Totality
import CanvasPress.Proofs.Press.Races
import CanvasPress.Proofs.Codec.Overlay
import CanvasPress.Proofs.CommandLine.Precedence
import CanvasPress.Proofs.Compose.Entries
import CanvasPress.Proofs.Codec.Construction
