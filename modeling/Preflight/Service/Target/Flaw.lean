import Preflight.Text.Quoted

namespace Preflight.Target

inductive LabelFlaw where
  | length
  | tooLong
  | character (c : Char)
  | direction (rule : Nat)
  | marked
  deriving DecidableEq, Repr

def LabelFlaw.message : LabelFlaw → String
  | length => "label empty or too long"
  | tooLong => "label too long"
  | character c => "Invalid character " ++ Text.quoted (String.singleton c)
  | direction rule => s!"Violation of BIDI requirement {rule}"
  | marked => "Label starts with ACE prefix"

inductive Flaw where
  | brackets
  | laterAddress
  | noAddress (text : String)
  | shortAddress
  | port (text : String)
  | portRange
  | letters (host : String)
  | label (flaw : LabelFlaw)
  deriving DecidableEq, Repr

def Flaw.message : Flaw → String
  | brackets => "Invalid IPv6 URL"
  | laterAddress => "IPvFuture address is invalid"
  | noAddress text => Text.quoted text ++ " does not appear to be an IPv4 or IPv6 address"
  | shortAddress => "An IPv4 address cannot be in brackets"
  | port text => "Port could not be cast to integer value as " ++ Text.quoted text
  | portRange => "Port out of range 0-65535"
  | letters host => s!"netloc '{host}' contains invalid characters under NFKC normalization"
  | label flaw => s!"encoding with 'idna' codec failed (UnicodeError: {flaw.message})"

end Preflight.Target
