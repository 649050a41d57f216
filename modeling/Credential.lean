import Credential.Main
import Credential.Schema.Stored
import Credential.Proofs.CommandLine.Outcome
import Credential.Proofs.Order
import Credential.Proofs.Context.Coverage
import Credential.Proofs.Schema.Blame
import Credential.Proofs.Schema.Meaning
import Credential.Proofs.Schema.Normalization
import Credential.Proofs.Schema.Relaxation
import Credential.Proofs.Schema.Relevance
import Credential.Proofs.Value.Alternatives
import Credential.Proofs.Value.DeclarationOrder
import Credential.Proofs.Value.Depth
import Credential.Proofs.Value.Membership
import Credential.Proofs.Value.Origin
import Credential.Proofs.Value.Satisfaction
import Credential.Proofs.Value.Spelling
import Credential.Proofs.Value.Subject
