/-!
Text cut at the first place where a mark stands. Main statement: what comes before the mark, the
mark, and what comes after it make up the text.
-/
set_option autoImplicit false

namespace Companion.Text

-- What stands before the first occurrence of a mark, and what stands after it.
def cutAt? (mark : List Char) : List Char → Option (List Char × List Char)
  | [] => none
  | c :: rest =>
    if mark.isPrefixOf (c :: rest) then some ([], (c :: rest).drop mark.length)
    else (cutAt? mark rest).map fun (before, after) => (c :: before, after)

theorem append_of_cutAt? {mark text before after : List Char}
    (found : cutAt? mark text = some (before, after)) : text = before ++ mark ++ after := by
  induction text generalizing before with
  | nil => simp [cutAt?] at found
  | cons c rest ih =>
    unfold cutAt? at found
    split at found
    · rename_i here
      obtain ⟨tail, split⟩ := List.isPrefixOf_iff_prefix.1 here
      simp only [Option.some.injEq, Prod.mk.injEq] at found
      obtain ⟨rfl, rfl⟩ := found
      simp [← split]
    · obtain ⟨⟨first, last⟩, cut, same⟩ := Option.map_eq_some_iff.1 found
      simp only [Prod.mk.injEq] at same
      obtain ⟨rfl, rfl⟩ := same
      simp [ih cut]

theorem length_of_cutAt? {mark text before after : List Char}
    (found : cutAt? mark text = some (before, after)) : after.length ≤ text.length := by
  simp [append_of_cutAt? found]
  omega

end Companion.Text
