import DexPools.Layout
import DexPools.Proofs.Acceptance
import DexPools.Proofs.Allocation
import DexPools.Proofs.AnnotationForm
import DexPools.Proofs.Batches
import DexPools.Proofs.BulkCopy
import DexPools.Proofs.Cells
import DexPools.Proofs.ClassCalls
import DexPools.Proofs.ClassForm
import DexPools.Proofs.Classes
import DexPools.Proofs.Contents
import DexPools.Proofs.Descriptors
import DexPools.Proofs.Encoding
import DexPools.Proofs.Extension
import DexPools.Proofs.Failures
import DexPools.Proofs.Following
import DexPools.Proofs.Given
import DexPools.Proofs.Identity
import DexPools.Proofs.InstructionStream
import DexPools.Proofs.Interning
import DexPools.Proofs.Leniency
import DexPools.Proofs.ListOrder
import DexPools.Proofs.Members
import DexPools.Proofs.Numbering
import DexPools.Proofs.Order
import DexPools.Proofs.OrderIndependence
import DexPools.Proofs.Plan
import DexPools.Proofs.Pools
import DexPools.Proofs.Reachable
import DexPools.Proofs.Reading
import DexPools.Proofs.ReferenceOrder
import DexPools.Proofs.Requests
import DexPools.Proofs.Resolution
import DexPools.Proofs.Rows
import DexPools.Proofs.Runs
import DexPools.Proofs.Shelf
import DexPools.Proofs.SlotMap
import DexPools.Proofs.Sorting
import DexPools.Proofs.StaticValues
import DexPools.Proofs.Stepwise
import DexPools.Proofs.TableOrder
import DexPools.Proofs.TextOrder
import DexPools.Proofs.ValueOrder
import DexPools.Proofs.Verdict
import DexPools.Proofs.WellFormed
import DexPools.Proofs.WriteOnce
import DexPools.Proofs.WriterWalk
