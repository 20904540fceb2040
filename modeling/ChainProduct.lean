import ChainProduct.Bracketing
import ChainProduct.Command.Folder
import ChainProduct.Main
import ChainProduct.Trace
import ChainProduct.Proofs.LeastCost
import ChainProduct.Proofs.Settled
import ChainProduct.Proofs.Solve
import ChainProduct.Proofs.FillOrder
import ChainProduct.Proofs.CellOrder
import ChainProduct.Proofs.Schedule
import ChainProduct.Proofs.Coverage
import ChainProduct.Proofs.Symmetry
import ChainProduct.Proofs.Comparison
import ChainProduct.Proofs.Bounds
import ChainProduct.Proofs.Evaluation
import ChainProduct.Proofs.Storing
import ChainProduct.Proofs.PartialMap
import ChainProduct.Proofs.Validation
import ChainProduct.Proofs.Input.Lines
import ChainProduct.Proofs.Input.Format
import ChainProduct.Proofs.Input.Failure
import ChainProduct.Proofs.Input.Refusal
import ChainProduct.Proofs.Command.Usage
import ChainProduct.Proofs.Command.Outcome
import ChainProduct.Proofs.Command.Message
