/-! Splitting lists at separators. -/

namespace FrameCheck.Text

/-- The parts of a list between separators; there is one part more than separators. -/
def split [DecidableEq α] (separator : α) : List α → List (List α)
  | [] => [[]]
  | item :: rest =>
    if item = separator then [] :: split separator rest
    else
      match split separator rest with
      | [] => [[item]]
      | first :: others => (item :: first) :: others

end FrameCheck.Text
