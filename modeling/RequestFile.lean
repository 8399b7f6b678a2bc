import RequestFile.Main
import RequestFile.Proofs.Placeholder.Clean
import RequestFile.Proofs.Placeholder.Scanning
import RequestFile.Proofs.Rendering.Firsts
import RequestFile.Proofs.Rendering.Passes
import RequestFile.Request.Lookup
import RequestFile.Request.Validation
import RequestFile.Proofs.Rendering.Factoring
import RequestFile.Proofs.Rendering.Simultaneous
import RequestFile.Proofs.Toml.Reading
import RequestFile.Proofs.Document.Checks
import RequestFile.Proofs.Document.Acceptance
import RequestFile.Proofs.Document.Requests
import RequestFile.Proofs.Placeholder.Discovery
import RequestFile.Proofs.Rendering.Rediscovery
import RequestFile.Proofs.Rendering.Discovered
import RequestFile.Proofs.Rendering.SingleName
import RequestFile.Proofs.Rendering.Stages
import RequestFile.Proofs.Rendering.Invariants
import RequestFile.Proofs.CommandLine.Failures
import RequestFile.Proofs.CommandLine.Invocations
import RequestFile.Proofs.CommandLine.Variables
import RequestFile.Proofs.Placeholder.Histories
import RequestFile.Proofs.Placeholder.Occurrences
import RequestFile.Proofs.CommandLine.Levels
import RequestFile.Proofs.Placeholder.Matches
import RequestFile.Proofs.Rendering.Arrays
import RequestFile.Proofs.Document.Conversion
import RequestFile.Proofs.Document.Offences
import RequestFile.Proofs.Document.Problems
import RequestFile.Proofs.Document.Respelling
import RequestFile.Proofs.Json.Requests
