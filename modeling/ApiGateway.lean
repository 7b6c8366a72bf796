import ApiGateway.Main
import ApiGateway.Proofs.Catalog.Invariant
import ApiGateway.Proofs.Catalog.Loading
import ApiGateway.Proofs.Catalog.Lookup
import ApiGateway.Proofs.Catalog.Reports
import ApiGateway.Proofs.Catalog.SaveFaults
import ApiGateway.Proofs.Catalog.Saving
import ApiGateway.Proofs.Catalog.Spelling
import ApiGateway.Proofs.Catalog.Updates
import ApiGateway.Proofs.Command
import ApiGateway.Proofs.Document.ByDefinition
import ApiGateway.Proofs.Document.Conversion
import ApiGateway.Proofs.Document.Overflow
import ApiGateway.Proofs.Document.Preparing
import ApiGateway.Proofs.Document.Pruning
import ApiGateway.Proofs.Duration.Canonical
import ApiGateway.Proofs.Duration.Exactness
import ApiGateway.Proofs.Duration.Respelling
import ApiGateway.Proofs.Validation
