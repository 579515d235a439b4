/-!
# Text in a column

A text fitted into a column is first cut to a greatest number of characters and then, when it is
shorter than the column is wide, moved to the right end of it.
-/

namespace Resumable.Text

/-- A text cut to `cut` characters and set to the right in a column of `width` characters. -/
def fit (width cut : Option Nat) (text : String) : String :=
  let kept := match cut with
    | some n => text.toList.take n
    | none => text.toList
  String.ofList (List.replicate (width.getD 0 - kept.length) ' ' ++ kept)

/-- Without a width and a cut, a text is left alone. -/
@[simp]
theorem fit_none (text : String) : fit none none text = text := by
  simp [fit]

end Resumable.Text
