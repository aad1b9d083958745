import Armature.Geometry.Bounds
import Armature.Geometry.Motion
import Armature.Text.Slug
import Armature.Text.Utf8
import Armature.Decimal.Layout
import Armature.Digest.Blake3
import Armature.Json.Canonical
import Armature.Json.Outline
import Armature.Json.Reader
import Armature.Spec.Json
import Armature.Limits
import Armature.Live.Json
import Armature.Model.Json
import Armature.Identity
import Armature.Message
import Armature.Model.Entry
import Armature.Model.Hierarchy
import Armature.Model.Ranks
import Armature.Model.WorkList
import Armature.Graph.Postorder
import Armature.Model.OfSpec
import Armature.Plan.OfModel
import Armature.Plan.References
import Armature.Plan.Sequence
import Armature.Plan.Json
import Armature.Live.Edit
import Armature.Spec.Critter
import Armature.Stability
import Armature.Command.Normalize
import Armature.Command.Plan
import Armature.Main
import Armature.Proofs.Attempts
import Armature.Proofs.Rosters
import Armature.Proofs.Hierarchies
import Armature.Proofs.TopDown
import Armature.Proofs.Stages
import Armature.Proofs.SoundModels
import Armature.Proofs.Nearness
import Armature.Proofs.Matchings
import Armature.Proofs.Planning
import Armature.Proofs.SettledModels
import Armature.Proofs.LiveHierarchies
import Armature.Proofs.Steps
import Armature.Proofs.Sequencing
import Armature.Proofs.CarryingOut
import Armature.Proofs.ParentReferences
import Armature.Proofs.Acts
import Armature.Proofs.Rematching
import Armature.Proofs.Enacting
import Armature.Proofs.Replanning
import Armature.Proofs.Bearers
import Armature.Proofs.Convergence
import Armature.Proofs.EmptyPlans
import Armature.Proofs.Cycles
import Armature.Proofs.Postorders
import Armature.Proofs.AnchorGraphs
import Armature.Proofs.PartialRuns
import Armature.Proofs.Reparenting
import Armature.Proofs.KeptParents
import Armature.Proofs.LiveMarks
import Armature.Proofs.AnchorSolutions
import Armature.Proofs.WorkLists
import Armature.Proofs.AnchorLoops
import Armature.Proofs.Merging
import Armature.Proofs.Reorderings
import Armature.Proofs.Provenance
import Armature.Proofs.SetAttributes
import Armature.Proofs.Renames
import Armature.Proofs.DefaultedOrigins
import Armature.Proofs.Accounting
import Armature.Proofs.Deletions
import Armature.Proofs.SnapshotOrder
import Armature.Proofs.MemberOrders
import Armature.Proofs.Readers
import Armature.Proofs.ReadingOrders
import Armature.Proofs.GeometryDocuments
import Armature.Proofs.WireFormat
import Armature.Proofs.BinaryFloats
import Armature.Proofs.SpecEntries
import Armature.Proofs.SpecDocuments
import Armature.Proofs.SpecRoundTrips
import Armature.Proofs.ShortestDecimals
import Armature.Proofs.NumberTexts
import Armature.Proofs.NearestDecimals
import Armature.Proofs.NumeralReadings
import Armature.Proofs.PrintedTexts
import Armature.Proofs.QuotedTexts
import Armature.Proofs.UniqueReadings
import Armature.Proofs.Digests
import Armature.Proofs.StandardForm
import Armature.Proofs.Expansions
import Armature.Proofs.Notices
import Armature.Proofs.Overlays
import Armature.Proofs.Retellings
import Armature.Proofs.Tops
import Armature.Proofs.ModeGates
import Armature.Proofs.ReportedCycles
import Armature.Proofs.Slugs
import Armature.Proofs.DerivedIds
import Armature.Proofs.SlugIds
import Armature.Proofs.HashIds
import Armature.Proofs.BlankIdentities
import Armature.Proofs.ExactArithmetic
import Armature.Proofs.FinalPositions
import Armature.Proofs.MirroredBack
import Armature.Proofs.RadialCopies
import Armature.Proofs.Divergences
import Armature.Proofs.Ranks
import Armature.Proofs.LiveDepths
import Armature.Proofs.KeyOrder
