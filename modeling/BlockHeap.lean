import BlockHeap.CommandLine.Run
import BlockHeap.Heap.Blocks
import BlockHeap.Main
import BlockHeap.Proofs.Agreement
import BlockHeap.Proofs.CleanLists
import BlockHeap.Proofs.Integrity
import BlockHeap.Proofs.Isolation
import BlockHeap.Proofs.Noninterference
import BlockHeap.Proofs.Leftovers
import BlockHeap.Proofs.Providers
import BlockHeap.Proofs.Refusals
import BlockHeap.Proofs.ReleaseOrder
import BlockHeap.Proofs.Replays
import BlockHeap.Proofs.Requests
import BlockHeap.Proofs.Robustness
import BlockHeap.Proofs.Tampering
import BlockHeap.Proofs.Shifting
import BlockHeap.Proofs.Terms
import BlockHeap.Proofs.Totality
import BlockHeap.Proofs.Undoing
import BlockHeap.Proofs.Relocation
import BlockHeap.Proofs.Lexemes
import BlockHeap.Proofs.Grammar
import BlockHeap.Proofs.FitPolicy
import BlockHeap.Proofs.Reallocation
import BlockHeap.Proofs.Retaking
import BlockHeap.Proofs.Program
import BlockHeap.Proofs.Carving
import BlockHeap.Proofs.Joining
import BlockHeap.Proofs.Concatenation
import BlockHeap.Proofs.Shrinking
import BlockHeap.Proofs.ListWalks
import BlockHeap.Proofs.Clearing
import BlockHeap.Proofs.Sequences
import BlockHeap.Proofs.Configurations
