import TrustRouter.Main
import TrustRouter.Proofs.Configuration.Membership
import TrustRouter.Proofs.Manager.History
import TrustRouter.Proofs.Manager.Interleaving
import TrustRouter.Proofs.Policy.Entries
import TrustRouter.Proofs.Configuration.Merging
import TrustRouter.Proofs.Configuration.Refusal
import TrustRouter.Proofs.Configuration.Order
import TrustRouter.Proofs.Configuration.Sections
import TrustRouter.Proofs.Document.Grammar
import TrustRouter.Proofs.Document.Relevance
import TrustRouter.Proofs.Configuration.Limits
import TrustRouter.Proofs.Audit.Trace
import TrustRouter.Proofs.Audit.Lines
import TrustRouter.Proofs.Audit.Governance
import TrustRouter.Proofs.CommandLine.Agreement
import TrustRouter.Proofs.Policy.FirstLine
import TrustRouter.Proofs.Policy.Coverage
import TrustRouter.Proofs.Configuration.Expiration
import TrustRouter.Proofs.Directory.Reading
import TrustRouter.Proofs.CommandLine.Lines
