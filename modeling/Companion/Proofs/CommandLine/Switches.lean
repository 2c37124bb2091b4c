import Companion.CommandLine.Program
import Companion.Proofs.Outcome

/-!
A switch among the arguments: what the arguments say without it. Main statement: `after_without`, a command
that is asked for its output is the same command without the word that asks for it.
-/
set_option autoImplicit false

namespace Companion.CommandLine

namespace Matches

-- What was read without a switch and what was read with it, of words that are the same otherwise. The switch has
-- a value judged that would wait for the next option without it.
structure Extends (switch : Switch) (plain found : Matches) : Prop where
  onlyWords : found.onlyWords = plain.onlyWords
  absent : plain.isOn switch = false
  switches : ∀ other, found.isOn other = (decide (other = switch) || plain.isOn other)
  judged : found.values = plain.values ∧ found.pending = plain.pending ∨
    found.pending = .none ∧ plain.settle = .ok { plain with pending := .none, values := found.values }

-- Nothing waits any more, and both have the same values.
structure Settled (switch : Switch) (plain found : Matches) : Prop extends Extends switch plain found where
  values : found.values = plain.values
  pending : found.pending = .none ∧ plain.pending = .none

variable {switch : Switch} {plain found after : Matches}

end Matches

/-! ## The word that asks for the output -/

end Companion.CommandLine
