import GcoSpec.Python.Text
import GcoSpec.Python.Lines
import GcoSpec.Python.Dict
import GcoSpec.Python.Enum
import GcoSpec.Python.Effect
import GcoSpec.Python.Value
import GcoSpec.Python.Digits
import GcoSpec.Python.Double
import GcoSpec.Python.DateTime
import GcoSpec.Python.Timestamp
import GcoSpec.Python.IsoFormat
import GcoSpec.Python.Json
import GcoSpec.Python.JsonRoundTrip
import GcoSpec.Python.JsonText
import GcoSpec.Gco.Models
import GcoSpec.Gco.Canonical
import GcoSpec.Gco.Errors
import GcoSpec.Gco.Validator
import GcoSpec.Gco.ModelValidate
import GcoSpec.Library.Chains
import GcoSpec.Library.Provenance
import GcoSpec.Gco.Delegation
import GcoSpec.Gco.Ancestry
import GcoSpec.Gco.ReplayCache
import GcoSpec.Gco.Attestation
import GcoSpec.Gco.TimeClaims
import GcoSpec.Gco.Binding
import GcoSpec.Gco.TrustIsolation
import GcoSpec.Gco.Trust
import GcoSpec.Library.Naming
import GcoSpec.Gco.TrustKeys
import GcoSpec.Gco.Consumption
import GcoSpec.Gco.Tenancy
import GcoSpec.Library.Runs
import GcoSpec.Gco.StateStore
import GcoSpec.Gco.Derivation
import GcoSpec.Gco.Maximality
import GcoSpec.Gco.Completeness
import GcoSpec.Gco.Runtime
import GcoSpec.Gco.Returning
import GcoSpec.Gco.Standard
import GcoSpec.Gco.Decisions
import GcoSpec.Gco.Authorities
import GcoSpec.Gco.Mediation
import GcoSpec.Gco.Cached
import GcoSpec.Gco.Narrowing
import GcoSpec.Gco.StateHistory
import GcoSpec.Gco.Quarantine
import GcoSpec.GcoMcp.Wire
import GcoSpec.GcoMcp.Codec
import GcoSpec.GcoMcp.Boundaries
import GcoSpec.GcoMcp.Mediation
import GcoSpec.GcoMcp.Replay
import GcoSpec.GcoMcp.HostCalls
import GcoSpec.Gco.Minting
import GcoSpec.Gco.CacheHistory
import GcoSpec.GcoMcp.Confinement
import GcoSpec.GcoMcp.Handover
import GcoSpec.GcoMcp.RoundTrip
import GcoSpec.Library.JsonSchema
import GcoSpec.Gco.Schema
import GcoSpec.Gco.Cli
import GcoSpec.Gco.ValidateResult
import GcoSpec.GcoMcp.Answers
import GcoSpec.Gco.Concurrency
import GcoSpec.Library.HashChain
import GcoSpec.Library.SharedChain
import GcoSpec.Gco.PolicyLedger
import GcoSpec.Gco.LedgerRecord
import GcoSpec.Gco.LedgerFile
import GcoSpec.Gco.LedgerRuns
import GcoSpec.Gco.SharedLedger
import GcoSpec.Gco.LedgerReload
import GcoSpec.Library.Replay
import GcoSpec.Gco.ActivePolicies
import GcoSpec.Gco.AsOfReplay
import GcoSpec.Gco.LedgerFailure
import GcoSpec.Gco.CliOutput
import GcoSpec.Gco.CliLedger
import GcoSpec.Gco.CliChecks
import GcoSpec.Gco.CliDerive
import GcoSpec.Gco.Relay
import GcoSpec.Gco.CliReports
import GcoSpec.Library.HarmonicMean
import GcoSpec.Gco.DerHarness
