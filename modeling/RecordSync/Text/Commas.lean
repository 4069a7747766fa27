/-!
# Lists in a line of text

Column names are listed with a comma and a space between them.

Key definitions: `Text.commas`.
-/
namespace RecordSync
namespace Text

/-- The texts with a comma and a space between each two. -/
def commas : List String → String
  | [] => ""
  | [s] => s
  | s :: ss => s ++ ", " ++ commas ss

end Text
end RecordSync
