import TypingPolicy.Policy.Basic
import TypingPolicy.Text.Quoted

/-!
# The debug line about a policy

Every field with its value, in order.  A list of names is written in round brackets, and one name alone
keeps a comma.
-/

namespace TypingPolicy.Policy

def flagText (b : Bool) : String := if b then "True" else "False"

def namesText : List String → String
  | [] => "()"
  | [name] => "(" ++ Text.quoted name ++ ",)"
  | names => "(" ++ ", ".intercalate (names.map Text.quoted) ++ ")"

def describe (p : Policy) : String :=
  "PolicyConfig(disable_dynamic_compile=" ++ flagText p.disableDynamicCompile
    ++ ", dynamic_compile_whitelist=" ++ namesText p.whitelist
    ++ ", limit_extensions=" ++ flagText p.limitExtensions
    ++ ", allowed_extensions=" ++ namesText p.allowedExtensions
    ++ ", untyped_allowed=" ++ flagText p.untypedAllowed
    ++ ", skip_default_package=" ++ flagText p.skipDefaultPackage ++ ")"

end TypingPolicy.Policy
