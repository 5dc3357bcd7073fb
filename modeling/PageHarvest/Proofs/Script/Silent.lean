import Mathlib.Data.List.Infix
import PageHarvest.Proofs.Script.Comments

namespace PageHarvest

open Python

namespace Script

end Script

namespace Job

open Script

variable {j : Job}

end Job
end PageHarvest
