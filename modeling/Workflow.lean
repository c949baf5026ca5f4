import Workflow.Definition.Writer
import Workflow.Main
import Workflow.Simulation
import Workflow.Proofs.Interleaving
import Workflow.Proofs.Placement
import Workflow.Proofs.Contract
import Workflow.Proofs.Blame
import Workflow.Proofs.Attempts
import Workflow.Proofs.Graphs
import Workflow.Proofs.Checking
import Workflow.Proofs.Loading
import Workflow.Proofs.Malformation
import Workflow.Proofs.Termination
import Workflow.Proofs.Tolerance
import Workflow.Proofs.Waves
import Workflow.Proofs.Sequencing
import Workflow.Proofs.Efforts
import Workflow.Proofs.Stays
import Workflow.Proofs.Counters
import Workflow.Proofs.Retries
import Workflow.Proofs.Calls
import Workflow.Proofs.Walks
import Workflow.Proofs.Invocations
import Workflow.Proofs.Heeding
import Workflow.Proofs.Surrender
import Workflow.Proofs.Absorption
import Workflow.Proofs.Assignments
import Workflow.Proofs.Scoping
import Workflow.Proofs.Conclusions
import Workflow.Proofs.Branches
import Workflow.Proofs.Ledger
import Workflow.Proofs.Metering
import Workflow.Proofs.Refusals
import Workflow.Proofs.Costs
import Workflow.Proofs.Inversions
import Workflow.Proofs.Fields
import Workflow.Proofs.Dialects
import Workflow.Proofs.Members
import Workflow.Proofs.Choices
import Workflow.Proofs.Rereading
import Workflow.Proofs.Doubles
import Workflow.Proofs.Records
import Workflow.Proofs.Documents
import Workflow.Proofs.Reloading
import Workflow.Proofs.Likeness
import Workflow.Proofs.Tables
import Workflow.Proofs.Preservation
import Workflow.Proofs.Wording
import Workflow.Proofs.Quotes
import Workflow.Proofs.Extents
import Workflow.Proofs.Placeholders
import Workflow.Proofs.Reachability
import Workflow.Proofs.Pieces
import Workflow.Proofs.Changes
import Workflow.Proofs.Texts
import Workflow.Proofs.Verdicts
import Workflow.Proofs.Slices
import Workflow.Proofs.ShortCircuit
import Workflow.Proofs.Batches
import Workflow.Proofs.Progressions
import Workflow.Proofs.Precedence
import Workflow.Proofs.Transparency
import Workflow.Proofs.Writes
import Workflow.Proofs.Draws
import Workflow.Proofs.Saturation
import Workflow.Proofs.Merging
import Workflow.Proofs.Descent
import Workflow.Proofs.Sextets
import Workflow.Proofs.Delays
import Workflow.Proofs.Agreement
import Workflow.Proofs.Respacing
