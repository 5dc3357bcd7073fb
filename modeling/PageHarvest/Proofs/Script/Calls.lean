import PageHarvest.Proofs.Python.Records
import PageHarvest.Proofs.Script.Mentions

namespace PageHarvest

namespace Script

open Python

-- a line is evaluated character by character
set_option maxRecDepth 2000

end Script

namespace Job

open Script Python

variable {j : Job}

end Job
end PageHarvest
