import SpatialFilter.Configuration.Read
import SpatialFilter.Configuration.Write
import SpatialFilter.Database.Memory
import SpatialFilter.Extent.Command
import SpatialFilter.Filter.Collaborator
import SpatialFilter.Filter.Compile
import SpatialFilter.Proofs.DraftRuns
import SpatialFilter.Proofs.ExtentInvariant
import SpatialFilter.Proofs.GeometryContainment
import SpatialFilter.Proofs.SharedReference
import SpatialFilter.Proofs.OperatorGrammar
import SpatialFilter.Proofs.UnconfiguredLayers
import SpatialFilter.Proofs.RequestedReference
import SpatialFilter.Proofs.UnsetReferences
import SpatialFilter.Proofs.ConfiguredLayers
import SpatialFilter.Proofs.FilterDocuments
import SpatialFilter.Proofs.EnvelopeEncodings
import SpatialFilter.Proofs.EscapedTexts
import SpatialFilter.Proofs.WrittenDocuments
import SpatialFilter.Proofs.IntegerTexts
import SpatialFilter.Proofs.LookupOutcomes
import SpatialFilter.Proofs.QueryTexts
import SpatialFilter.Proofs.CatalogEntries
import SpatialFilter.Proofs.InverseLookups
import SpatialFilter.Proofs.SridNames
import SpatialFilter.Proofs.CatalogLabels
import SpatialFilter.Proofs.NearestRanks
import SpatialFilter.Proofs.DecimalRanks
import SpatialFilter.Proofs.PlainTexts
import SpatialFilter.Proofs.RenderedBoxes
import SpatialFilter.Proofs.NumberOrder
import SpatialFilter.Proofs.AcceptedExtents
import SpatialFilter.Proofs.ExtentTexts
import SpatialFilter.Proofs.GeographicExtents
import SpatialFilter.Proofs.AggregatedExtents
import SpatialFilter.Proofs.NamedSrids
import SpatialFilter.Proofs.ExtentQueries
import SpatialFilter.Proofs.Reprojections
import SpatialFilter.Proofs.CoordinateGrammar
import SpatialFilter.Proofs.EnvelopeReadings
import SpatialFilter.Proofs.OperatorFaults
import SpatialFilter.Proofs.EnvelopeNames
import SpatialFilter.Proofs.LayoutEdits
import SpatialFilter.Proofs.ElementMarks
import SpatialFilter.Proofs.EventTrees
import SpatialFilter.Proofs.SeparatorExchange
import SpatialFilter.Proofs.LayerCatalogs
import SpatialFilter.Proofs.ConfigurationDocuments
