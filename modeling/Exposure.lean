import Exposure.Catalog
import Exposure.Main
import Exposure.Proofs.Diagnosis
import Exposure.Proofs.Lossless
import Exposure.Proofs.Rearrangement
import Exposure.Proofs.Recompilation
import Exposure.Proofs.Occurrence
import Exposure.Proofs.Coverage
import Exposure.Proofs.Concatenation
import Exposure.Proofs.Chains
import Exposure.Proofs.Growth
import Exposure.Proofs.Normal
import Exposure.Proofs.Openings
import Exposure.Proofs.Readable
import Exposure.Proofs.Rereading
import Exposure.Proofs.Session
import Exposure.Proofs.Accounting
import Exposure.Proofs.Makings
import Exposure.Proofs.Naming
import Exposure.Proofs.Mentions
import Exposure.Proofs.Respelling
import Exposure.Proofs.Precedence
import Exposure.Proofs.Restatement
import Exposure.Proofs.Convention
import Exposure.Proofs.Separation
import Exposure.Proofs.Placement
import Exposure.Proofs.InterpreterToken
import Exposure.Proofs.Reordering
import Exposure.Proofs.Membership
import Exposure.Proofs.Discriminants
import Exposure.Proofs.NumberLiteral
import Exposure.Proofs.Quoting
import Exposure.Proofs.Documenting
import Exposure.Proofs.Renaming
import Exposure.Proofs.Lifetimes
import Exposure.Proofs.Identifiers
import Exposure.Proofs.Fusing
import Exposure.Proofs.RegistrationOrder
import Exposure.Proofs.Offsets
import Exposure.Proofs.Summaries
