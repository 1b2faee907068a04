import HttpCourier.Text.CodePoint

/-!
# HttpCourier.Text.Lines

**Lines of files**: a line may end in a line feed, in a carriage return, or in both, and all of
these are read as one line feed.
-/

namespace HttpCourier.Text

/-- The text with each line ending in one line feed. -/
def unifyLines : Text → Text
  | [] => []
  | c :: rest =>
    if c = '\r' then
      match rest with
      | d :: rest' =>
        if d = '\n' then CodePoint.ofChar '\n' :: unifyLines rest'
        else CodePoint.ofChar '\n' :: unifyLines (d :: rest')
      | [] => [CodePoint.ofChar '\n']
    else c :: unifyLines rest

end HttpCourier.Text
