import Preflight.Service.Target.Flaw
import Preflight.Value
import Preflight.Text.Utf8
import Preflight.Yaml.Flaw

/-!
Faults: everything that can keep a request from being answered, each as a cause. `Fault.message` words a cause
and `Fault.group` sorts causes into the groups by which callers decide what they answer for themselves.
-/
namespace Preflight

structure Place where
  line : Nat
  column : Nat
  offset : Nat
  deriving DecidableEq, Repr

inductive FileFault where
  | missing
  | exists
  | notDirectory
  | isDirectory
  | nameTooLong
  | unusable
  deriving DecidableEq, Repr

inductive Fault where
  | invalid (reason : String)
  | storage (reason : String)
  | malformedReal (shown : String)
  | malformedWhole (base : Nat) (shown : String)
  | tooManyDigits (digits : Nat)
  | unwritable
  | notReal (kind : String)
  | notWhole (kind : String)
  | realOverflow
  | wholeOfUndefined
  | wholeOfInfinite
  | notIterable (kind : String)
  | notSearchable (kind : String)
  | notSubscriptable (kind : String)
  | listSubscript
  | textSubscript
  | missingKey (key : String)
  | missingNumber (key : Nat)
  | tooFewValues (expected found : Nat)
  | tooManyValues (expected : Nat)
  | notUnpackable (kind : String)
  | noOperation (kind name : String)
  | notComparable (operator left right : String)
  | outsideDomain
  | divisionByZero
  | openRing
  | endlessRay
  | unknownVehicle (shown : String)
  | badSetting (reason : String)
  | settingKey (kind : String)
  | fixedSetting (reason : String)
  | readOnlySetting (key group : String)
  | notPath (kind : String)
  | notText (kind : String)
  | octetPath
  | badLevel (shown : String)
  | noHome
  | outOfRange (reason : String)
  | tooLong
  | beyondList
  | beyondText
  | kindSubscript (kind : String)
  | kindOperation (kind name : String)
  | calendar (flaw : Calendar.Flaw)
  | unordered (reason : String)
  | notJson (kind : String)
  | notJsonKey (kind : String)
  | circular
  | target (flaw : Target.Flaw)
  | brokenHeader
  | missingArgument (index : Nat)
  | missingName (name : String)
  | malformedTemplate (reason : String)
  | unformattable (kind : String)
  | malformedJson (reason : String) (place : Place)
  | malformedYaml (name : String) (flaw : Yaml.Flaw)
  | undecodable (flaw : Utf8.Flaw)
  | file (fault : FileFault) (path : String)
  deriving DecidableEq, Repr

namespace Fault

inductive Group where
  | invalid
  | storage
  | value
  | kind
  | key
  | operation
  | overflow
  | division
  | room
  | index
  | file
  | geometry
  | host
  | yaml
  deriving DecidableEq, Repr

def group : Fault → Group
  | invalid _ => .invalid
  | storage _ => .storage
  | malformedReal _ | malformedWhole .. | tooManyDigits _ | unwritable | wholeOfUndefined | tooFewValues .. | tooManyValues _
  | outsideDomain | unknownVehicle _ | badSetting _ | malformedTemplate _ | malformedJson .. | undecodable _
  | calendar _ | circular | target _ | brokenHeader => .value
  | notReal _ | notWhole _ | notIterable _ | notSearchable _ | notSubscriptable _ | listSubscript | textSubscript
  | kindSubscript _
  | notUnpackable _ | notComparable .. | settingKey _ | fixedSetting _ | notPath _ | notText _ | octetPath | badLevel _
  | unformattable _ | unordered _ | notJson _ | notJsonKey _ => .kind
  | missingKey _ | missingNumber _ | missingName _ => .key
  | noOperation .. | readOnlySetting .. | kindOperation .. => .operation
  | realOverflow | wholeOfInfinite | outOfRange _ => .overflow
  | divisionByZero => .division
  | tooLong => .room
  | missingArgument _ | beyondList | beyondText => .index
  | file .unusable _ => .value
  | file .. => .file
  | openRing | endlessRay => .geometry
  | noHome => .host
  | malformedYaml _ (.escape n) => if Yaml.largestEscape < n then .overflow else .value
  | malformedYaml .. => .yaml

def isAmong (fault : Fault) (groups : List Group) : Bool := groups.contains fault.group

def clipped (s : String) : String := String.ofList (s.toList.take 200)

def message : Fault → String
  | invalid reason => reason
  | storage reason => reason
  | malformedReal shown => s!"could not convert string to float: {shown}"
  | malformedWhole base shown => s!"invalid literal for int() with base {base}: {clipped shown}"
  | tooManyDigits digits =>
    s!"Exceeds the limit (4300 digits) for integer string conversion: value has {digits} digits; " ++
      "use sys.set_int_max_str_digits() to increase the limit"
  | unwritable =>
    "Exceeds the limit (4300 digits) for integer string conversion; " ++
      "use sys.set_int_max_str_digits() to increase the limit"
  | notReal kind => s!"float() argument must be a string or a real number, not '{kind}'"
  | notWhole kind =>
    s!"int() argument must be a string, a bytes-like object or a real number, not '{kind}'"
  | realOverflow => "int too large to convert to float"
  | wholeOfUndefined => "cannot convert float NaN to integer"
  | wholeOfInfinite => "cannot convert float infinity to integer"
  | notIterable kind => s!"'{kind}' object is not iterable"
  | notSearchable kind => s!"argument of type '{kind}' is not iterable"
  | notSubscriptable kind => s!"'{kind}' object is not subscriptable"
  | listSubscript => "list indices must be integers or slices, not str"
  | textSubscript => "string indices must be integers, not 'str'"
  | missingKey key => Text.quoted key
  | missingNumber key => toString key
  | tooFewValues expected found => s!"not enough values to unpack (expected {expected}, got {found})"
  | tooManyValues expected => s!"too many values to unpack (expected {expected})"
  | notUnpackable kind => s!"cannot unpack non-iterable {kind} object"
  | noOperation kind name => s!"'{kind}' object has no attribute '{name}'"
  | notComparable operator left right =>
    s!"'{operator}' not supported between instances of '{left}' and '{right}'"
  | outsideDomain => "math domain error"
  | divisionByZero => "float division by zero"
  | openRing | endlessRay => ""
  | unknownVehicle shown => s!"{shown} is not a valid VehicleType"
  | badSetting reason => reason
  | settingKey kind => s!"attribute name must be string, not '{kind}'"
  | fixedSetting reason => reason
  | readOnlySetting key group => s!"attribute '{key}' of '{group}' objects is not writable"
  | notPath kind => s!"expected str, bytes or os.PathLike object, not {kind}"
  | notText kind => s!"expected string or bytes-like object, got '{kind}'"
  | octetPath =>
    "argument should be a str object or an os.PathLike object returning str, not <class 'bytes'>"
  | badLevel shown => s!"Level not an integer or a valid string: {shown}"
  | noHome => "Could not determine home directory."
  | outOfRange reason => reason
  | tooLong => ""
  | beyondList => "list index out of range"
  | beyondText => "string index out of range"
  | kindSubscript kind => s!"type '{kind}' is not subscriptable"
  | kindOperation kind name => s!"type object '{kind}' has no attribute '{name}'"
  | calendar flaw => flaw.message
  | unordered reason => reason
  | notJson kind => s!"Object of type {kind} is not JSON serializable"
  | circular => "Circular reference detected"
  | target flaw => flaw.message
  | brokenHeader => "Header values must not contain newline characters."
  | notJsonKey kind => s!"keys must be str, int, float, bool or None, not {kind}"
  | missingArgument index => s!"Replacement index {index} out of range for positional args tuple"
  | missingName name => Text.quoted name
  | malformedTemplate reason => reason
  | unformattable kind => s!"unsupported format string passed to {kind}.__format__"
  | malformedJson reason place =>
    s!"{reason}: line {place.line} column {place.column} (char {place.offset})"
  | malformedYaml name flaw => flaw.message name
  | undecodable flaw => flaw.message
  | file .missing path => s!"[Errno 2] No such file or directory: {Text.quoted path}"
  | file .exists path => s!"[Errno 17] File exists: {Text.quoted path}"
  | file .notDirectory path => s!"[Errno 20] Not a directory: {Text.quoted path}"
  | file .isDirectory path => s!"[Errno 21] Is a directory: {Text.quoted path}"
  | file .unusable _ => "embedded null byte"
  | file .nameTooLong path => s!"[Errno 36] File name too long: {Text.quoted path}"

/-- Turns faults of the given groups into a refusal of the data; other faults pass. -/
def refusing {α : Type} (groups : List Group) (reason : String → String) (x : Except Fault α) : Except Fault α :=
  match x with
  | .ok a => .ok a
  | .error f => .error (if f.isAmong groups then .invalid (reason f.message) else f)

/-- A refusal that shows something of the data, or else the fault of showing it. -/
def refusal (reason : String → String) : Except Fault String → Fault
  | .ok shown => invalid (reason shown)
  | .error fault => fault

def refusingWith {α : Type} (groups : List Group) (reason : String → String) (shown : Except Fault String)
    (x : Except Fault α) : Except Fault α :=
  match x with
  | .ok a => .ok a
  | .error f => .error (if f.isAmong groups then refusal reason shown else f)

end Fault

end Preflight
