import ShaclQuery.Proofs.Precedence

/-! # Adding an output path

A command that names no output path can be given one in front of its arguments or in its environment.
Its settings are then the same but for that path: an output path takes no part in how other arguments are
taken.
-/

namespace ShaclQuery.Arguments

/-! ## 1. Taking arguments -/

/-- What has been taken behind an output path, which counts unless there is a later one. -/
def Given.behind (output : Option String) (g : Given) : Given :=
  { g with output := g.output.or output }

section Behind

variable {defaults defaults' : Config} (h : defaults'.focusNode = defaults.focusNode)
  (output : Option String)

end Behind

/-! ## 2. Reading settings -/

variable {env : Config.Environment} {arguments : List String} {config : Config}

end ShaclQuery.Arguments
