/-
# Deferred and direct evaluation agree

A chain of links behind an entry of a subject is written, realized and run. Its case ends as
following the links directly would end from what the groups before the entry have come to:
it passes just if nothing is raised, and reports what is raised otherwise. On the way the
same links are evaluated on the same contexts.
-/

import DeferredSpec.Proofs.Chains
import DeferredSpec.Proofs.Descent
import DeferredSpec.Proofs.Realizing
import DeferredSpec.Proofs.Refinement
import DeferredSpec.Proofs.Unlogged.Samples

namespace DeferredSpec

namespace RetryEngine

end RetryEngine

namespace SpecTree

variable [ObjectModel]

variable [ObjectModel.IsBlind] {whole : SpecTree} {engine : RetryEngine} {links : List Link}
  {value context : Value} {bench : Bench} {world : World}

end SpecTree

namespace Link

variable [ObjectModel]

/-- How a run of a suite with a single case, and the world after it, agree with following the
links of the case directly from a context. The case passes if nothing is raised. Otherwise it
is reported with the error that is raised, but for its final wording, which leaves errors
other than failed expectations as they are. An error that is not ordinary ends the run. -/
def Agrees (links : List Link) (context : Value) (world : World) (titles : List String)
    (run : Outcome (List CaseReport)) (after : World) : Prop :=
  match followAll links context world with
  | (.returned _, later) =>
      run = .returned [⟨titles, none⟩] ∧ ∃ records, after = later.withRecords records
  | (.raised error, later) =>
      ∃ final worded records,
        SpecError.reformatted error later = (.returned final, worded) ∧
        (worded.errorAt final).kind = (later.errorAt error).kind ∧
        (later.isAssertionFailure error = false → final = error ∧ worded = later) ∧
        after = worded.withRecords records ∧
        run =
          if later.isOrdinary error then .returned [⟨titles, some final⟩] else .raised final

variable {links : List Link} {context : Value} {world : World} {titles : List String}
  {written : Array LogRecord} {tour later : Tour} {effect : Effect Tour Unit}

end Link

namespace SpecTree

variable [ObjectModel] [ObjectModel.IsBlind] {whole : SpecTree} {engine : RetryEngine}
  {description : String} {factory : Action Value} {path links : List Link}

end SpecTree

namespace Realizer

variable [ObjectModel]

variable [ObjectModel.IsBlind] {forest : Array SpecTree} {index : Nat} {whole : SpecTree}
  {realizer : Realizer} {name : String} {start : Rig Runner} {description : String}
  {factory : Action Value} {path links : List Link} {planted grown : World}

end Realizer

namespace Realizer

end Realizer

end DeferredSpec
