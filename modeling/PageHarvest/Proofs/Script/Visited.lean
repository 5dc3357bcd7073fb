import PageHarvest.Proofs.Script.Work

namespace PageHarvest

open Python

namespace Pagination

/-- How many pages come before each of the pages. -/
def places (p : Pagination) : List Nat :=
  List.range (max 1 p.pageCount.toNat)

def pageUrl (p : Pagination) (n : Int) : String :=
  p.urlPrefix ++ toString n ++ p.urlSuffix

end Pagination

namespace Script

-- a line is evaluated character by character
set_option maxRecDepth 4000

def numberWord : List Char := ['p', 'a', 'g', 'e', '_', 'n', 'u', 'm', 'b', 'e', 'r']

def urlWord : List Char := ['p', 'a', 'g', 'e', '_', 'u', 'r', 'l']

/-- The values of the names that are used for a page. -/
structure Knows (env : Env) (p : Pagination) : Prop where
  urlPrefix : env Name.urlPrefix.word = some (.text p.urlPrefix)
  urlSuffix : env Name.urlSuffix.word = some (.text p.urlSuffix)
  pause : ∃ q, env Name.requestDelay.word = some (.decimal q)

variable {env : Env} {p : Pagination}

/-- The loop over the pages gives other names new values. -/
theorem Knows.update (h : Knows env p) {name : List Char}
    (hn : name = numberWord ∨ name = urlWord) (v : Option Value) :
    Knows (Function.update env name v) p := by
  have other (n : Name) (hw : n.word ≠ numberWord ∧ n.word ≠ urlWord) :
      Function.update env name v n.word = env n.word :=
    Function.update_of_ne (hn.elim (fun he => he ▸ hw.1) fun he => he ▸ hw.2) _ _
  constructor
  · rw [other _ (by decide), h.urlPrefix]
  · rw [other _ (by decide), h.urlSuffix]
  · rw [other _ (by decide)]
    exact h.pause

end Script

namespace Job

open Script

variable {j : Job}

section counting

variable (hp : j.pagination.usesUrlPattern = true)

include hp

end counting

end Job
end PageHarvest
