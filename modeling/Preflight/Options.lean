import Preflight.Value.Access

namespace Preflight.Options

inductive Conversion where
  | text
  | whole
  | real
  deriving DecidableEq, Repr

inductive Shape where
  | mark (value : Value)
  | one (conversion : Conversion) (choices : Option (List Value))
  | several (count : Nat) (conversion : Conversion)
  | help

structure Rule where
  names : List String
  field : String
  shape : Shape
  absent : Value := .null
  excludes : List String := []

inductive Operand where
  | nothing
  | single (field : String)
  | command (field : String) (choices : List String)

structure Grammar where
  program : String
  rules : List Rule
  operand : Operand

inductive Refusal where
  | usage (program reason : String)
  | help (program : String)
  deriving DecidableEq, Repr

def Refusal.message : Refusal → String
  | usage program reason => s!"{program}: error: {reason}"
  | help _ => ""

structure Parsed where
  fields : Entries := []
  extras : List String := []
  command : Option (String × List String) := none

namespace Conversion

def name : Conversion → String
  | text => "str"
  | whole => "int"
  | real => "float"

def convert (s : String) : Conversion → Except Fault Value
  | text => .ok (.text s)
  | whole => .whole <$> (Value.text s).toWhole
  | real => .real <$> (Value.text s).toReal

end Conversion

namespace Rule

def shown (r : Rule) : String := String.intercalate "/" r.names

def arity (r : Rule) : Nat :=
  match r.shape with
  | .mark _ | .help => 0
  | .one .. => 1
  | .several count _ => count

def wanting (r : Rule) : String :=
  match r.shape with
  | .several count _ => s!"expected {count} arguments"
  | _ => "expected one argument"

end Rule

inductive Mark where
  | plain
  | separator
  | option (rule : Option Rule) (name : String) (joined : Option String)

abbrev Marked := List (String × Mark)

def Mark.isPlain : Mark → Bool
  | plain => true
  | _ => false

def Mark.isSeparator : Mark → Bool
  | separator => true
  | _ => false

def Mark.isOption : Mark → Bool
  | option .. => true
  | _ => false

namespace Grammar

def named (g : Grammar) : List (String × Rule) := g.rules.flatMap fun r => r.names.map (·, r)

def find? (g : Grammar) (name : String) : Option Rule := g.named.lookup name

def refuse {α : Type} (g : Grammar) (reason : String) : Except Refusal α := .error (.usage g.program reason)

def refuseFor {α : Type} (g : Grammar) (shown reason : String) : Except Refusal α :=
  g.refuse s!"argument {shown}: {reason}"

def cutAtSign (s : String) : String × Option String :=
  let before := s.toList.takeWhile (· != '=')
  (String.ofList before,
    match s.toList.drop before.length with
    | _ :: after => some (String.ofList after)
    | [] => none)

def candidates (g : Grammar) (s : String) : List (String × Mark) :=
  if s.startsWith "--" then
    let (start, value) := cutAtSign s
    (g.named.filter fun (name, _) => name.startsWith start).map fun (name, rule) =>
      (name, .option (some rule) name value)
  else
    let short := String.ofList (s.toList.take 2)
    g.named.filterMap fun (name, rule) =>
      if name == short then
        some (name, .option (some rule) name (some (String.ofList (s.toList.drop 2))))
      else if name.startsWith s then some (name, .option (some rule) name none)
      else none

def isDigit (c : Char) : Bool := (Text.digitValue? c).isSome

def isNegativeNumber (s : String) : Bool :=
  let cs := s.toList
  match if cs.getLast? == some '\n' then cs.dropLast else cs with
  | '-' :: rest =>
    (!rest.isEmpty && rest.all isDigit) ||
      (match rest.dropWhile isDigit with
      | '.' :: digits => !digits.isEmpty && digits.all isDigit
      | _ => false)
  | _ => false

def mark (g : Grammar) (s : String) : Except Refusal Mark :=
  if !s.startsWith "-" then .ok .plain
  else match g.find? s with
    | some rule => .ok (.option (some rule) s none)
    | none =>
      if s = "-" then .ok .plain
      else
        let (name, value) := cutAtSign s
        match value, g.find? name with
        | some value, some rule => .ok (.option (some rule) name (some value))
        | _, _ =>
          match g.candidates s with
          | [(_, mark)] => .ok mark
          | [] =>
            .ok (if isNegativeNumber s || s.contains ' ' then .plain else .option none s none)
          | several =>
            let found := String.intercalate ", " (several.map (·.1))
            g.refuse s!"ambiguous option: {s} could match {found}"

def markAll (g : Grammar) : List String → Except Refusal Marked
  | [] => .ok []
  | s :: rest =>
    if s = "--" then .ok ((s, .separator) :: rest.map (·, .plain))
    else do
      let m ← g.mark s
      return (s, m) :: (← g.markAll rest)

structure State where
  parsed : Parsed := {}
  given : List String := []
  operandTaken : Bool := false

def convertFor (g : Grammar) (shown : String) (conversion : Conversion) (s : String) : Except Refusal Value :=
  match conversion.convert s with
  | .ok v => .ok v
  | .error _ => g.refuseFor shown s!"invalid {conversion.name} value: {Text.quoted s}"

def sameChoice : Value → Value → Bool
  | .text a, .text b => a == b
  | .whole a, .whole b => a == b
  | _, _ => false

def checkChoice (g : Grammar) (shown : String) (choices : List Value) (v : Value) : Except Refusal Value :=
  if choices.any (sameChoice v) then .ok v
  else
    let listed := String.intercalate ", " (choices.map Value.literal)
    g.refuseFor shown s!"invalid choice: {v.literal} (choose from {listed})"

def valueOf (g : Grammar) (r : Rule) (values : List String) : Except Refusal Value :=
  match r.shape with
  | .mark v => .ok v
  | .help => .error (.help g.program)
  | .one conversion choices => do
    let v ← g.convertFor r.shown conversion (values.headD "")
    match choices with
    | some choices => g.checkChoice r.shown choices v
    | none => .ok v
  | .several _ conversion => do return .list (← values.mapM (g.convertFor r.shown conversion))

def take (g : Grammar) (state : State) (r : Rule) (values : List String) : Except Refusal State := do
  let v ← g.valueOf r values
  match r.excludes.find? state.given.contains with
  | some other => g.refuseFor r.shown s!"not allowed with argument {other}"
  | none =>
    return { state with
      given := r.shown :: state.given
      parsed := { state.parsed with fields := Entries.insert state.parsed.fields r.field v } }

def addExtras (state : State) (extras : List String) : State :=
  { state with parsed := { state.parsed with extras := state.parsed.extras ++ extras } }

abbrev Joined := List (Rule × List String) × Option Rule

def joinedOptions (g : Grammar) (r : Rule) (name : String) :
    List Char → List (Rule × List String) → Except Refusal Joined
  | joined, todo =>
    let ignored : Except Refusal Joined :=
      g.refuseFor r.shown s!"ignored explicit argument {Text.quoted (String.ofList joined)}"
    if r.arity = 1 then .ok (todo ++ [(r, [String.ofList joined])], none)
    else if r.arity ≠ 0 then g.refuseFor r.shown r.wanting
    else match joined with
      | [] => ignored
      | c :: rest =>
        let next := String.ofList ['-', c]
        match if name.startsWith "--" then none else g.find? next with
        | none => ignored
        | some following =>
          let todo := todo ++ [(r, [])]
          if rest.isEmpty then .ok (todo, some following) else g.joinedOptions following next rest todo

def valuesAhead (rest : Marked) : List String := (rest.takeWhile (·.2.isPlain)).map (·.1)

def takeAhead (g : Grammar) (r : Rule) (rest : Marked) : Except Refusal (List String × Marked) :=
  let values := (valuesAhead rest).take r.arity
  if values.length < r.arity then g.refuseFor r.shown r.wanting
  else .ok (values, rest.drop r.arity)

def takeAll (g : Grammar) (state : State) (todo : List (Rule × List String)) : Except Refusal State :=
  todo.foldlM (fun state (r, values) => g.take state r values) state

def takeOption (g : Grammar) (state : State) (s : String) (rule : Option Rule) (name : String)
    (joined : Option String) (rest : Marked) : Except Refusal (State × Marked) := do
  match rule, joined with
  | none, _ => return (addExtras state [s], rest)
  | some r, none =>
    let (values, rest) ← g.takeAhead r rest
    return (← g.take state r values, rest)
  | some r, some value =>
    let (todo, last) ← g.joinedOptions r name value.toList []
    match last with
    | none => return (← g.takeAll state todo, rest)
    | some r =>
      let (values, rest) ← g.takeAhead r rest
      return (← g.takeAll state (todo ++ [(r, values)]), rest)

def operandWidth (operand : Operand) (marked : Marked) : Nat :=
  let lead := (marked.takeWhile (·.2.isSeparator)).length
  match marked.drop lead with
  | (_, .plain) :: rest =>
    match operand with
    | .nothing => 0
    | .single _ => lead + 1 + (rest.takeWhile (·.2.isSeparator)).length
    | .command .. => marked.length
  | _ => 0

def takeOperand (g : Grammar) (state : State) (values : List String) : Except Refusal State :=
  let state := { state with operandTaken := true }
  match g.operand with
  | .nothing => .ok state
  | .single field =>
    let value := (values.erase "--").headD ""
    .ok { state with parsed := { state.parsed with fields := Entries.insert state.parsed.fields field (.text value) } }
  | .command field choices => do
    let name := values.headD ""
    let _ ← g.checkChoice field (choices.map .text) (.text name)
    return { state with
      parsed := { state.parsed with
        fields := Entries.insert state.parsed.fields field (.text name)
        command := some (name, values.drop 1) } }

def takeFrom (g : Grammar) : Nat → State → Marked → Except Refusal State
  | 0, state, _ => .ok state
  | _ + 1, state, [] => .ok state
  | fuel + 1, state, (s, m) :: rest =>
    match m with
    | .option rule name joined => do
      let (state, rest) ← g.takeOption state s rule name joined rest
      g.takeFrom fuel state rest
    | _ =>
      let marked := (s, m) :: rest
      let width := if state.operandTaken then 0 else operandWidth g.operand marked
      if width = 0 then
        let extras := marked.takeWhile (!·.2.isOption)
        g.takeFrom fuel (addExtras state (extras.map (·.1))) (marked.drop extras.length)
      else do
        let state ← g.takeOperand state ((marked.take width).map (·.1))
        g.takeFrom fuel state (marked.drop width)

def required : Operand → Option String
  | .nothing => none
  | .single field | .command field _ => some field

def defaults (g : Grammar) : Entries :=
  let fields := g.rules.filterMap fun r =>
    match r.shape with
    | .help => none
    | _ => some (r.field, r.absent)
  Entries.ofList fields

def read (g : Grammar) (arguments : List String) : Except Refusal Parsed := do
  let marked ← g.markAll arguments
  let state ← g.takeFrom marked.length { parsed := { fields := g.defaults } } marked
  match required g.operand with
  | some field =>
    if state.operandTaken then return state.parsed
    else g.refuse s!"the following arguments are required: {field}"
  | none => return state.parsed

def refuseExtras (g : Grammar) (extras : List String) : Except Refusal Unit :=
  if extras.isEmpty then .ok ()
  else
    let found := String.intercalate " " extras
    g.refuse s!"unrecognized arguments: {found}"

end Grammar

end Preflight.Options
