import Preflight.Text.Quoted

namespace Preflight.Yaml

structure Mark where
  line : Nat := 0
  column : Nat := 0
  deriving DecidableEq, Repr, Inhabited

def Mark.message (name : String) (m : Mark) : String := s!"  in \"{name}\", line {m.line + 1}, column {m.column + 1}"

inductive Layer where
  | tokens
  | nodes
  | names
  | values
  deriving DecidableEq, Repr

structure Breach where
  layer : Layer
  context : Option String := none
  start : Option Mark := none
  problem : String
  found : Mark
  deriving DecidableEq, Repr

inductive Flaw where
  | character (c : Char) (index : Nat)
  | escape (n : Nat)
  | breach (b : Breach)
  deriving DecidableEq, Repr

namespace Flaw

def token (context : String) (start : Mark) (problem : String) (found : Mark) : Flaw :=
  .breach { layer := .tokens, context := some context, start := some start, problem, found }

def node (context : String) (start : Mark) (problem : String) (found : Mark) : Flaw :=
  .breach { layer := .nodes, context := some context, start := some start, problem, found }

def plain (layer : Layer) (problem : String) (found : Mark) : Flaw := .breach { layer, problem, found }

def noToken (c : Char) (found : Mark) : Flaw :=
  let problem := "found character " ++ Text.quoted (String.singleton c) ++ " that cannot start any token"
  .breach { layer := .tokens, context := some "while scanning for the next token", problem, found }

end Flaw

def Breach.message (name : String) (b : Breach) : String :=
  let start := match b.start with
    | some mark => if mark = b.found then [] else [mark.message name]
    | none => []
  String.intercalate "\n" (b.context.toList ++ start ++ [b.problem, b.found.message name])

def largestEscape : Nat := 0x7fffffff

def Flaw.message (name : String) : Flaw → String
  | character c index =>
    let code := String.ofList (Text.hexDigits 4 (Text.Surrogate.codePoint c))
    s!"unacceptable character #x{code}: special characters are not allowed\n  in \"{name}\", position {index}"
  | escape n => if largestEscape < n then "Python int too large to convert to C int" else "chr() arg not in range(0x110000)"
  | breach b => b.message name

end Preflight.Yaml
