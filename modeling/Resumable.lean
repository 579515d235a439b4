import Resumable.Scenario.Play
import Resumable.Specimen
import Resumable.Text.Quoted
import Resumable.Proofs.StepSequence
import Resumable.Proofs.Unwinding
import Resumable.Proofs.Trail
import Resumable.Proofs.Dialogue
import Resumable.Proofs.Answers
import Resumable.Proofs.Borrowing
import Resumable.Proofs.Locality
import Resumable.Proofs.Past
import Resumable.Proofs.Reentrancy
import Resumable.Proofs.Delivery
import Resumable.Proofs.IteratorClose
import Resumable.Proofs.Receivers
import Resumable.Proofs.Undisturbed
import Resumable.Proofs.Lockstep
import Resumable.Proofs.Gates
import Resumable.Proofs.Newborn
import Resumable.Proofs.LogWords
import Resumable.Proofs.Region
import Resumable.Proofs.Enclave
import Resumable.Proofs.Interleaving
import Resumable.Proofs.HostForms
import Resumable.Proofs.StepOutcome
import Resumable.Proofs.Closing
import Resumable.Proofs.Reports
import Resumable.Proofs.GivingUp
import Resumable.Proofs.Collecting
import Resumable.Proofs.Splitting
import Resumable.Proofs.UnknownModes
