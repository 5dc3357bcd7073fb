import Mathlib.Data.List.TFAE
import PageHarvest.Proofs.Python.Calls
import PageHarvest.Proofs.Script.Calls
import PageHarvest.Proofs.Script.Shared
import PageHarvest.Proofs.Script.Silent

namespace PageHarvest

open Python

namespace Script

-- a line is evaluated character by character
set_option maxRecDepth 4000

end Script

namespace Job

open Script

variable {j : Job}

section links

variable (ht : j.target = .staticFetch) (hp : ∀ reason, j.plan ≠ .guidance reason)
  (hl : j.extraction.mode = .links)

include ht hp hl

end links

end Job
end PageHarvest
