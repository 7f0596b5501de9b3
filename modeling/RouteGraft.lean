import RouteGraft.Main
import RouteGraft.Proofs.AddedElements
import RouteGraft.Proofs.Additions
import RouteGraft.Proofs.ClassInsertions
import RouteGraft.Proofs.CommentedAnchors
import RouteGraft.Proofs.DeclaredMembers
import RouteGraft.Proofs.Frames
import RouteGraft.Proofs.GroupBorders
import RouteGraft.Proofs.Growth
import RouteGraft.Proofs.Headers
import RouteGraft.Proofs.Levels
import RouteGraft.Proofs.Methods
import RouteGraft.Proofs.Placement
import RouteGraft.Proofs.ReadBack
import RouteGraft.Proofs.Registrations
import RouteGraft.Proofs.Renderings
import RouteGraft.Proofs.Setters
import RouteGraft.Proofs.Verbosity
import RouteGraft.Proofs.WordPattern
import RouteGraft.Proofs.Writes
import RouteGraft.Route.Fields
