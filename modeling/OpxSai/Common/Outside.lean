import OpxSai.Common.Object

/-!
# What is outside of a module

A module asks the NPU library, the allocator and the trees it inserts into. Each answer may depend on
all the calls before it, so any of them may fail at any point of a run.
-/

namespace OpxSai

/-- The calls that left a module with their answers, oldest first. -/
abbrev CallLog (C : Type) := List (C × Status)

/-- How the outside answers a call, with the calls before it in view. -/
abbrev Outside (C : Type) := CallLog C → C → Status

/-- The log after one more call. -/
def Outside.log {C : Type} (outside : Outside C) (c : C) (log : CallLog C) : CallLog C :=
  log ++ [(c, outside log c)]

end OpxSai
