import TfExplorer.Types
import TfExplorer.Pipeline
import TfExplorer.Currency
import TfExplorer.Store
import TfExplorer.Api.Task
import TfExplorer.Api.Create
import TfExplorer.Api.Sign
import TfExplorer.Api.Workloads
import TfExplorer.System
import TfExplorer.Invariant
import TfExplorer.Lifecycle
import TfExplorer.Poll
import TfExplorer.CreateRun
import TfExplorer.Results
import TfExplorer.Queue
import TfExplorer.Signatures
import TfExplorer.Checks
import TfExplorer.Provenance
import TfExplorer.Escrow
import TfExplorer.Directory.Handler
import TfExplorer.Directory.UserUpdate
import TfExplorer.Directory.UserCreate
import TfExplorer.Directory.PublicConfig
import TfExplorer.Directory.ProofHash
import TfExplorer.UserId
import TfExplorer.Migrate
