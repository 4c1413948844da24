import StateFabric.Guarantees.Arithmetic
import StateFabric.Guarantees.Charter
import StateFabric.Guarantees.Commits
import StateFabric.Guarantees.Compatibility
import StateFabric.Guarantees.DataPlane
import StateFabric.Guarantees.Durability
import StateFabric.Guarantees.Format
import StateFabric.Guarantees.Frames
import StateFabric.Guarantees.Isolation
import StateFabric.Guarantees.Lifecycle
import StateFabric.Guarantees.Lineage
import StateFabric.Guarantees.Registry
import StateFabric.Guarantees.Restart
import StateFabric.Guarantees.Reuse
import StateFabric.Guarantees.Revalidation
import StateFabric.Guarantees.Time
