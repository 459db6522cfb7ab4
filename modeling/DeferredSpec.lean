import DeferredSpec.Manifest
import DeferredSpec.Proofs.Refinement
import DeferredSpec.Proofs.Retries
import DeferredSpec.Samples.Objects
import DeferredSpec.Session.Command
import DeferredSpec.Session.Inquiry
import DeferredSpec.Proofs.Growth
import DeferredSpec.Proofs.Coverage
import DeferredSpec.Proofs.Unlogged.Operations
import DeferredSpec.Proofs.Unlogged.Members
import DeferredSpec.Proofs.Unlogged.Predicates
import DeferredSpec.Proofs.Spines
import DeferredSpec.Proofs.Direct
import DeferredSpec.Proofs.Chains
import DeferredSpec.Proofs.Agreement
import DeferredSpec.Proofs.Unlogged.Samples
import DeferredSpec.Proofs.Operations
import DeferredSpec.Proofs.Descriptions
import DeferredSpec.Proofs.Masking
import DeferredSpec.Proofs.Composition
import DeferredSpec.Proofs.Additions
import DeferredSpec.Proofs.Ledger
import DeferredSpec.Proofs.Grounds
import DeferredSpec.Proofs.Likeness.Renaming
import DeferredSpec.Proofs.Likeness.Looks
import DeferredSpec.Proofs.Likeness.Views
import DeferredSpec.Proofs.Likeness.Functions
import DeferredSpec.Proofs.Likeness.Runs
import DeferredSpec.Proofs.Likeness.Retracing
import DeferredSpec.Proofs.Likeness.Visits
import DeferredSpec.Proofs.Independence
import DeferredSpec.Proofs.Likeness.Across
import DeferredSpec.Proofs.Budgets
import DeferredSpec.Proofs.Checks
import DeferredSpec.Proofs.Polarity
import DeferredSpec.Proofs.Forgetting
import DeferredSpec.Proofs.Conduct
import DeferredSpec.Proofs.Recovery
import DeferredSpec.Proofs.Nodes
import DeferredSpec.Proofs.Links
import DeferredSpec.Proofs.Handles
import DeferredSpec.Proofs.Plans
import DeferredSpec.Proofs.Echoes
import DeferredSpec.Proofs.Unlogged.Executions
import DeferredSpec.Proofs.Promotion
import DeferredSpec.Proofs.Pairings
import DeferredSpec.Proofs.PairedRealizing
import DeferredSpec.Proofs.Eventually
import DeferredSpec.Proofs.Overrides
import DeferredSpec.Proofs.Environments
import DeferredSpec.Proofs.Waiting
import DeferredSpec.Proofs.Readings
import DeferredSpec.Proofs.Scripts
import DeferredSpec.Proofs.Passing
import DeferredSpec.Proofs.Nesting
import DeferredSpec.Proofs.JsonTexts
import DeferredSpec.Proofs.Unambiguity
import DeferredSpec.Proofs.Interposition
import DeferredSpec.Proofs.Accompaniment
import DeferredSpec.Proofs.Passage
import DeferredSpec.Proofs.Detours
import DeferredSpec.Proofs.Rerouting
import DeferredSpec.Proofs.LanguageLinks
import DeferredSpec.Proofs.Reruns
import DeferredSpec.Proofs.Invocations
import DeferredSpec.Proofs.Equality
import DeferredSpec.Proofs.Order
import DeferredSpec.Proofs.Comparisons
import DeferredSpec.Proofs.Bounds
import DeferredSpec.Proofs.Spans
import DeferredSpec.Proofs.Episodes
import DeferredSpec.Proofs.CallTraces
import DeferredSpec.Proofs.Stopwatches
import DeferredSpec.Proofs.Timings
