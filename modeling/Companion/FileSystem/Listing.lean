import Companion.FileSystem.Basic

/-!
Listings: everything below a directory, with the path that leads to it from there.
-/
set_option autoImplicit false

namespace Companion.FileSystem

def pathBelow? (above place : Location) : Option Path :=
  if above.isSuffixOf place ∧ above.length < place.length then
    some (.ofSegments (place.take (place.length - above.length)).reverse)
  else none

def listing (files : FileSystem) (above : Location) : List (Path × Node) :=
  (files.entries.filterMap fun (place, node) => (pathBelow? above place).map (·, node)).mergeSort
    fun first second => decide (first.1.bytes ≤ second.1.bytes)

end Companion.FileSystem
