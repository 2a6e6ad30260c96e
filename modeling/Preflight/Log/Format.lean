import Preflight.Log
import Preflight.Log.Conversion
import Preflight.Text.Alphanumeric
import Preflight.Text.Letter

namespace Preflight.Log

inductive Piece where
  | literal (c : Char)
  | place (name : String) (conversion : Conversion)
  deriving DecidableEq, Repr

def splitName : Nat → List Char → Option (List Char × List Char)
  | _, [] => none
  | depth, c :: rest =>
    match c, depth with
    | ')', 0 => some ([], rest)
    | ')', depth + 1 => (splitName depth rest).map fun (name, rest) => (c :: name, rest)
    | '(', depth => (splitName (depth + 1) rest).map fun (name, rest) => (c :: name, rest)
    | _, depth => (splitName depth rest).map fun (name, rest) => (c :: name, rest)

def readPlace : List Char → Option (Piece × List Char)
  | '(' :: rest => do
    let (name, rest) ← splitName 0 rest
    let (conversion, rest) ← Conversion.read rest
    return (.place (String.ofList name) conversion, rest)
  | '%' :: rest => some (.literal '%', rest)
  | _ => none

def piecesFrom : Nat → List Char → Option (List Piece)
  | 0, _ => some []
  | _ + 1, [] => some []
  | fuel + 1, '%' :: rest => do
    let (piece, rest) ← readPlace rest
    return piece :: (← piecesFrom fuel rest)
  | fuel + 1, c :: rest => do return .literal c :: (← piecesFrom fuel rest)

def pieces (format : String) : Option (List Piece) := piecesFrom format.length format.toList

def isNameChar (c : Char) : Bool := c == '_' || Text.isAlphanumeric c

def isFlag (c : Char) : Bool := ['#', '0', '+', ' ', '-'].contains c

def isDigit (c : Char) : Bool := (Text.digitValue? c).isSome

def afterNumber : List Char → List Char
  | '*' :: rest => rest
  | cs => cs.dropWhile isDigit

def afterPrecision : List Char → List Char
  | '.' :: rest => if rest.head?.any (fun c => c == '*' || isDigit c) then afterNumber rest else '.' :: rest
  | cs => cs

def conversionLetters : List Char := "diouxefgcrsa%".toList

/-- A letter in lower case; letters with a dot too few or too many, and a long `s`, count as the usual ones. -/
def inAscii (c : Char) : Char :=
  if c = '\u0130' || c = '\u0131' then 'i' else if c = '\u017f' then 's' else c.toLower

def startsPlace : List Char → Bool
  | '%' :: '(' :: rest =>
    let name := rest.takeWhile isNameChar
    match rest.drop name.length with
    | ')' :: rest =>
      !name.isEmpty && (afterPrecision (afterNumber (rest.dropWhile isFlag))).head?.any fun c =>
        conversionLetters.contains (inAscii c)
    | _ => false
  | _ => false

def hasPlace : List Char → Bool
  | [] => false
  | c :: rest => startsPlace (c :: rest) || hasPlace rest

def isFormat (format : String) : Bool := hasPlace format.toList

def part? (stamp : String) (line : Line) (name : String) : Option Value :=
  match name with
  | "asctime" => some (.text stamp)
  | "levelname" => some (.text (levelName line.level))
  | "levelno" => some (.whole line.level)
  | "name" => some (.text line.channelName)
  | "message" | "msg" => some (.text line.message)
  | "args" => some (.row [])
  | "threadName" => some (.text "MainThread")
  | "processName" => some (.text "MainProcess")
  | "exc_info" | "exc_text" | "stack_info" => some .null
  | _ => none

def Piece.render (stamp : String) (line : Line) : Piece → Option String
  | literal c => some (String.singleton c)
  | place name conversion => (part? stamp line name).bind conversion.apply

def render (format stamp : String) (line : Line) : Option String := do
  return String.join (← (← pieces format).mapM (Piece.render stamp line))

def standardFormat : String := "%(asctime)s [%(levelname)s] %(name)s: %(message)s"

def bareFormat : String := "%(message)s"

end Preflight.Log
