import Bitslice.Campaign.CommandLine
import Bitslice.Circuit.Load
import Bitslice.Descriptor.Builder
import Bitslice.Execution.Series
import Bitslice.Execution.TraceFile
import Bitslice.Host
import Bitslice.Main
import Bitslice.Trace.Hashed
import Bitslice.Trace.Replay
import Bitslice.Trace.Split
import Bitslice.Proofs.Fields
import Bitslice.Proofs.Records
import Bitslice.Proofs.Sources
import Bitslice.Proofs.Headers
import Bitslice.Proofs.Loading
import Bitslice.Proofs.Building
import Bitslice.Proofs.Canonical
import Bitslice.Proofs.Interleaving
import Bitslice.Proofs.Bits
import Bitslice.Proofs.SingleBit
import Bitslice.Proofs.Packing
import Bitslice.Proofs.Computing
import Bitslice.Proofs.Refinement
import Bitslice.Proofs.Bounds
import Bitslice.Proofs.Sessions
import Bitslice.Proofs.Recording
import Bitslice.Proofs.StoredTraces
import Bitslice.Proofs.Writers
import Bitslice.Proofs.Files
import Bitslice.Proofs.Replaying
import Bitslice.Proofs.Splitting
import Bitslice.Proofs.Series
import Bitslice.Proofs.Reruns
import Bitslice.Proofs.Layouts
import Bitslice.Proofs.Accounting
import Bitslice.Proofs.Tracing
import Bitslice.Proofs.Serving
import Bitslice.Proofs.Paths
import Bitslice.Proofs.Directories
import Bitslice.Proofs.Plaintexts
import Bitslice.Proofs.Machines
import Bitslice.Proofs.Batches
import Bitslice.Proofs.Campaigns
import Bitslice.Proofs.Extending
import Bitslice.Proofs.Hosting
import Bitslice.Proofs.Announcing
import Bitslice.Proofs.Stopping
import Bitslice.Proofs.Refusals
import Bitslice.Proofs.Halting
import Bitslice.Proofs.Checking
import Bitslice.Proofs.Decoding
import Bitslice.Proofs.KnownLengths
import Bitslice.Proofs.Breaking
import Bitslice.Proofs.Lengths
import Bitslice.Proofs.Fingerprints
import Bitslice.Proofs.Narrowing
import Bitslice.Proofs.Stepping
import Bitslice.Proofs.Distributing
import Bitslice.Proofs.Transposing
import Bitslice.Proofs.Boundaries
