import ValidatedStore.Access.Reporting
import ValidatedStore.Graph
import ValidatedStore.Inspect.Graph
import ValidatedStore.Inspect.Store
import ValidatedStore.Medium.Faults
import ValidatedStore.Medium.Files
import ValidatedStore.Medium.Memory
import ValidatedStore.Proofs.Graph.Copies
import ValidatedStore.Proofs.Medium.Files
import ValidatedStore.Proofs.Schema.Declaring
import ValidatedStore.Proofs.Schema.Places
import ValidatedStore.Proofs.Schema.Reports
import ValidatedStore.Proofs.Store.Delays
import ValidatedStore.Proofs.Store.Failing
import ValidatedStore.Proofs.Store.Observers
import ValidatedStore.Proofs.Store.Reloading
import ValidatedStore.Proofs.Store.Resetting
import ValidatedStore.Proofs.Store.RootRepairs
import ValidatedStore.Proofs.Value.Assigning
import ValidatedStore.Proofs.Value.Places
import ValidatedStore.Proofs.Value.Walking
import ValidatedStore.Store.Operation
import ValidatedStore.Store.Typed
import ValidatedStore.Proofs.Schema.Inferring
import ValidatedStore.Proofs.Schema.Sampling
import ValidatedStore.Proofs.Value.Removing
import ValidatedStore.Proofs.Value.Overwriting
import ValidatedStore.Proofs.KeyPath
import ValidatedStore.Proofs.Graph.Planting
import ValidatedStore.Proofs.Graph.Grafting
import ValidatedStore.Proofs.Medium.FilesAsMap
import ValidatedStore.Proofs.Toml.Quoting
import ValidatedStore.Proofs.Toml.Scalars
import ValidatedStore.Proofs.Value.Indexing
import ValidatedStore.Proofs.Toml.Lines
import ValidatedStore.Proofs.Binary64
import ValidatedStore.Proofs.Schema.NumberBounds
import ValidatedStore.Proofs.Settings
