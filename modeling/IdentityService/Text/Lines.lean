/-!
# Line Endings

A carriage return, alone or before a line feed, ends a line as a line feed does.
-/

namespace IdentityService.Text

/-- Every line ending becomes a line feed. -/
def unifiedLines : List Char → List Char
  | '\r' :: '\n' :: rest => '\n' :: unifiedLines rest
  | '\r' :: rest => '\n' :: unifiedLines rest
  | c :: rest => c :: unifiedLines rest
  | [] => []

end IdentityService.Text
