import ShaclQuery.Main
import ShaclQuery.Proofs.ClassUnion
import ShaclQuery.Proofs.Deactivation
import ShaclQuery.Proofs.Declarations
import ShaclQuery.Proofs.Decoding
import ShaclQuery.Proofs.Delivery
import ShaclQuery.Proofs.Depth
import ShaclQuery.Proofs.Distinctness
import ShaclQuery.Proofs.DocumentOrder
import ShaclQuery.Proofs.FixedFocus
import ShaclQuery.Proofs.FocusNodes
import ShaclQuery.Proofs.FocusOptions
import ShaclQuery.Proofs.GraphTable
import ShaclQuery.Proofs.Locality
import ShaclQuery.Proofs.MissingPaths
import ShaclQuery.Proofs.NodeShapes
import ShaclQuery.Proofs.Positions
import ShaclQuery.Proofs.PropertyOrder
import ShaclQuery.Proofs.TemplateSize
import ShaclQuery.Proofs.VariableNames
import ShaclQuery.Proofs.ViewChains
import ShaclQuery.Proofs.LargeOrders
import ShaclQuery.Proofs.CycleWarnings
import ShaclQuery.Proofs.IriTokens
import ShaclQuery.Proofs.LetterCase
