import InventoryQuery.Service.Execution
import InventoryQuery.Proofs.Query.Chronology
import InventoryQuery.Proofs.Query.Folding
import InventoryQuery.Proofs.Query.Refusal
import InventoryQuery.Proofs.Query.Subgroup
import InventoryQuery.Proofs.Wire.Conformance
import InventoryQuery.Proofs.Expression.Preservation
import InventoryQuery.Proofs.Expression.Composition
import InventoryQuery.Proofs.Service.Session
import InventoryQuery.Proofs.Url.Form
import InventoryQuery.Proofs.Query.Growth
import InventoryQuery.Proofs.HostPattern.Selection
import InventoryQuery.Proofs.Wire.Rendering
import InventoryQuery.Proofs.Expression.Demand
import InventoryQuery.Proofs.Expression.Violation
import InventoryQuery.Proofs.Query.Commutation
import InventoryQuery.Proofs.Expression.Failure
import InventoryQuery.Proofs.Expression.Misplacement
import InventoryQuery.Proofs.Service.Extraction
import InventoryQuery.Proofs.HostPattern.Distinction
import InventoryQuery.Proofs.ResourceKey.Division
import InventoryQuery.Proofs.Service.Defaults
import InventoryQuery.Proofs.Service.Destination
import InventoryQuery.Proofs.Service.Independence
import InventoryQuery.Proofs.Query.Depth
import InventoryQuery.Proofs.Query.Visits
import InventoryQuery.Proofs.Expression.Progress
