import FormEngine.Pattern.Search

/-!
The form of an email address that validation asks for: one at sign, no blanks, and a dot inside the
domain. It is a pattern, tried from the first character on, whose end lets a final line break follow.
-/

namespace FormEngine

namespace Email

/-- Some characters, none of which is an at sign or blank. -/
def part : Pattern :=
  .repeated (.oneOf [.single 64, .inside .space false] true .none) 1 none .greedy

/-- What ^[^@\s]+@[^@\s]+\.[^@\s]+$ is read as. -/
def form : Pattern :=
  Pattern.sequence [.edge .textStart, part, .char 64 false .none, part, .char 46 false .none, part,
    .edge .lastEnd]

def accepts (address : String) : Bool := form.opens address

end Email

end FormEngine
