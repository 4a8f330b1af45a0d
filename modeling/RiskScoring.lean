import RiskScoring.Cli.Machine
import RiskScoring.Main
import RiskScoring.Proofs.Evaluation.Faithful
import RiskScoring.Proofs.Evaluation.Lazy
import RiskScoring.Proofs.Publication.Linearizability
import RiskScoring.Proofs.Publication.LivePointer
import RiskScoring.Proofs.Publication.Unpublishing
import RiskScoring.Proofs.Publication.AsRead
import RiskScoring.Proofs.Publication.Changes
import RiskScoring.Proofs.Publication.Log
import RiskScoring.Proofs.Publication.Recorded
import RiskScoring.Proofs.Publication.Commuting
import RiskScoring.Proofs.Decision.Scoring
import RiskScoring.Proofs.Decision.Independence
import RiskScoring.Proofs.Decision.Retries
import RiskScoring.Proofs.Decision.ObjectByObject
import RiskScoring.Proofs.Decision.Transactions
import RiskScoring.Proofs.Decision.Isolation
import RiskScoring.Proofs.Publication.LiveScoring
import RiskScoring.Proofs.Publication.LiveSwap
import RiskScoring.Proofs.Json.Tokens
import RiskScoring.Proofs.Json.RoundTrip
import RiskScoring.Proofs.Json.Decoding
import RiskScoring.Proofs.Json.Identifiers
import RiskScoring.Proofs.Json.OneLine
import RiskScoring.Proofs.Formula.Records
import RiskScoring.Proofs.Formula.TextRoundTrip
import RiskScoring.Proofs.Formula.NormalForm
import RiskScoring.Proofs.Cli.Pipeline
import RiskScoring.Proofs.Cli.LineNumbers
import RiskScoring.Proofs.Decision.Export
import RiskScoring.Proofs.Decision.Saturation
import RiskScoring.Proofs.Decision.ScoringOrder
import RiskScoring.Proofs.Decision.RiskOrder
import RiskScoring.Proofs.Formula.Grammar
import RiskScoring.Proofs.Scenario.Exactness
import RiskScoring.Proofs.Scenario.Decoding
import RiskScoring.Proofs.Evaluation.Connectives
import RiskScoring.Proofs.Trace.Unambiguous
import RiskScoring.Proofs.Trace.Shape
import RiskScoring.Proofs.Ingest.Acceptance
import RiskScoring.Proofs.Model.Links
import RiskScoring.Proofs.Model.Decoding
import RiskScoring.Proofs.Ingest.JoinChain
import RiskScoring.Proofs.Publication.Overtaking
import RiskScoring.Proofs.Publication.Versions
