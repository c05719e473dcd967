import TypingPolicy.Markup.Literal
import TypingPolicy.Text.Blank
import TypingPolicy.Text.Word

/-!
# Action tags

A tag whose name begins with an at sign sets off text that does something.  What stands behind its equals
sign is the name of an action, the name and its arguments in brackets, or the arguments alone.  The
arguments must be values written out.
-/

namespace TypingPolicy.Action

def isName (c : Char) : Bool := Text.isWord c || c = '.'

/-- The arguments in what stands behind the equals sign.  A text that is not of the form of a name with
or without brackets is taken as a whole. -/
def arguments (s : List Char) : List Char :=
  let rest := s.dropWhile isName
  if rest = [] then ['(', ')']
  else if rest.head? = some '(' && rest.getLast? = some ')' && !rest.contains '\n' then rest
  else s

/-- Can the action be carried out?  Nothing at all is no action and does no harm. -/
def accepts (argument : String) : Bool :=
  argument = "" || Literal.accepts (arguments (Text.trim argument.toList))

end TypingPolicy.Action
