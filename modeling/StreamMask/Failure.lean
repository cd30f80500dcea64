/-
Why rules cannot be used, or a document cannot be masked.
-/
import StreamMask.Path.Pattern
import StreamMask.Json.Fault

namespace StreamMask

/-- What is wrong with a regular expression. -/
inductive RegexFault where
  | malformed
  /-- The expression is well formed, and its program would be larger than allowed. -/
  | tooLarge
deriving DecidableEq, Repr

def RegexFault.message : RegexFault → String
  | malformed => "regex parse error:"
  | tooLarge => "Compiled regex exceeds size limit of 10485760 bytes."

/-- What is wrong with a configuration file, its JSON apart. -/
inductive ConfigFault where
  | malformedToml
  | unsupportedFormat (extension path : String)
deriving DecidableEq, Repr

def ConfigFault.message : ConfigFault → String
  | malformedToml => "TOML parse error"
  | unsupportedFormat extension path =>
    "unsupported config format " ++ Text.quote extension ++ " for " ++ path

/-- Why rules cannot be used, or a document cannot be masked. -/
inductive Failure where
  | invalidPath (path : String) (fault : Path.Fault)
  | invalidRegex (pattern : String) (fault : RegexFault)
  /-- The events do not nest. Nothing is ever guessed to mend them, since a wrong guess could show
  what is to be hidden. -/
  | unbalanced (fault : Imbalance)
  /-- A masker supplied from outside failed, for a reason that it tells in words. -/
  | masker (message : String)
  | config (fault : ConfigFault)
  | io (fault : IoFault)
  | json (fault : Json.Fault)
deriving DecidableEq, Repr

namespace Failure

def message : Failure → String
  | invalidPath path fault => "invalid path pattern " ++ Text.quote path ++ ": " ++ fault.message
  | invalidRegex pattern fault => "invalid regex " ++ Text.quote pattern ++ ": " ++ fault.message
  | unbalanced fault => "unbalanced event stream: " ++ fault.message
  | masker text => "masker error: " ++ text
  | config fault => "config error: " ++ fault.message
  | io fault => "io error: " ++ fault.message
  | json fault => "json error: " ++ fault.message

/-- Whether the failure lies in the rules, not in a document. -/
def isConfigFailure : Failure → Bool
  | invalidPath _ _ | invalidRegex _ _ | config _ => true
  | unbalanced _ | masker _ | io _ | json _ => false

end Failure
end StreamMask
