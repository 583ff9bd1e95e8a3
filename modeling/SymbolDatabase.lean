import SymbolDatabase.Main
import SymbolDatabase.Proofs.Merge.Incremental
import SymbolDatabase.Proofs.Merge.Reference
import SymbolDatabase.Proofs.Json.Container
import SymbolDatabase.Proofs.Json.Value
import SymbolDatabase.Proofs.Json.Record
import SymbolDatabase.Proofs.Snapshot.Document
import SymbolDatabase.Proofs.Container
import SymbolDatabase.Proofs.Reload
import SymbolDatabase.Proofs.Merge.Reload
import SymbolDatabase.Proofs.Merge.EntryOrder
import SymbolDatabase.Proofs.Merge.Clean
import SymbolDatabase.Proofs.Merge.KeySeparation
import SymbolDatabase.Proofs.Merge.Commutation
import SymbolDatabase.Proofs.Command
import SymbolDatabase.Proofs.Merge.InputOrder
import SymbolDatabase.Proofs.Digest.Crc32
import SymbolDatabase.Proofs.Merge.Attribution
import SymbolDatabase.Proofs.Container.Memory
import SymbolDatabase.Proofs.Container.Layout
import SymbolDatabase.Proofs.Container.Corruption
import SymbolDatabase.Proofs.Growth
import SymbolDatabase.Proofs.Names.Lifetime
import SymbolDatabase.Proofs.Snapshot.Consistency
import SymbolDatabase.Proofs.Snapshot.Normalization
import SymbolDatabase.Proofs.Failure
import SymbolDatabase.Proofs.Workspace
import SymbolDatabase.Proofs.Overload
import SymbolDatabase.Proofs.BaseTypes
import SymbolDatabase.Proofs.Merge.Idempotence
import SymbolDatabase.Proofs.Merge.Names
import SymbolDatabase.Proofs.Snapshot.Determination
import SymbolDatabase.Proofs.Command.Atomicity
import SymbolDatabase.Proofs.Lookup
import SymbolDatabase.Proofs.Names.Reinterning
import SymbolDatabase.Proofs.Store.Scan
import SymbolDatabase.Proofs.Command.Dump
import SymbolDatabase.Proofs.Snapshot.References
import SymbolDatabase.Proofs.Merge.Accumulation.Course
import SymbolDatabase.Proofs.SameDefinition
