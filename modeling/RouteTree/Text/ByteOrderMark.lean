namespace RouteTree.Text

/-- The text without a byte order mark at its start. -/
def afterByteOrderMark : List Char → List Char
  | letter :: rest => if letter.toNat = 0xFEFF then rest else letter :: rest
  | [] => []

end RouteTree.Text
