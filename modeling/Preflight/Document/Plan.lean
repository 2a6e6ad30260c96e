import Preflight.Document
import Preflight.Files.Tree
import Preflight.Json.Reader

/-!
Mission documents in the plan form. A plan lists simple items, with their numbers in seven parameters, and complex
items, which stand for the simple items generated for them. `flatten` lists the simple items in order; `parse` reads
a document in either form.
-/
namespace Preflight.Document

open Fault

def relativeFrames : List Int := [3, 6, 10, 11]

def defaultFrame : Value := .whole 3

def loiterParam? : Command → Option Nat
  | .loiterUnlimited | .loiterTimeLimit | .loiterTurns => some 2
  | .loiterToAlt => some 1
  | _ => none

def planParam : Value → Except Fault Float
  | .null => .ok 0.0
  | v => v.toReal

structure PlanNumbers where
  code : Int
  params : List Float
  frame : Int

def readPlanNumbers (v : Value) : Except Fault PlanNumbers := do
  let code ← (← v.field "command").toWhole
  let params ← (← (← v.getD "params" (.list [])).elements).mapM planParam
  let frame ← (← v.getD "frame" defaultFrame).toWhole
  return { code, params, frame }

def PlanNumbers.item (n : PlanNumbers) : Item :=
  let command := Command.ofCode? n.code
  let param (i : Nat) := n.params.getD i 0.0
  { code := n.code
    lat := param 4
    lon := param 5
    altitude := param 6
    relative := relativeFrames.contains n.frame
    acceptanceRadius := if command = some .waypoint then param 1 else 0.0
    loiterRadius := ((command.bind loiterParam?).map param).getD 0.0
    params := Params.ofList n.params }

def planItem (v : Value) : Except Fault Item := do
  let numbers ← refusing [.key, .kind, .value] (fun reason => s!"invalid plan item: {reason}") (readPlanNumbers v)
  if numbers.params.length ≠ paramCount then
    refuse s!"plan item needs {paramCount} params, got {numbers.params.length}"
  return numbers.item

theorem sizeOf_get? {entries : Entries} {key : String} {v : Value} (h : entries.get? key = some v) :
    sizeOf v < sizeOf entries := by
  induction entries with
  | nil => simp [Entries.get?] at h
  | cons e rest ih =>
    obtain ⟨k, value⟩ := e
    by_cases hk : k = key
    · simp [Entries.get?, hk] at h
      subst h
      simp +arith
    · have : Entries.get? rest key = some v := by simpa [Entries.get?, hk] using h
      have := ih this
      simp only [List.cons.sizeOf_spec]
      omega

def nested? (entries : Entries) : Except Fault (Option Value) := do
  let own := entries.get? "Items"
  match entries.get? "TransectStyleComplexItem" with
  | none => return own
  | some transect => do
    match ← transect.get? "Items" with
    | some inner => return some inner
    | none => return own

theorem sizeOf_nested? {entries : Entries} {v : Value} (h : nested? entries = .ok (some v)) :
    sizeOf v < sizeOf entries := by
  unfold nested? at h
  split at h
  · rename_i hs
    simp only [pure, Except.pure, Except.ok.injEq] at h
    exact sizeOf_get? h
  · rename_i transect ht
    cases transect with
    | mapping inner =>
      simp only [Value.get?] at h
      cases hi : Entries.get? inner "Items" with
      | none =>
        simp [hi, bind, Except.bind, pure, Except.pure] at h
        exact sizeOf_get? h
      | some w =>
        simp [hi, bind, Except.bind, pure, Except.pure] at h
        subst h
        have h₁ := sizeOf_get? hi
        have h₂ := sizeOf_get? ht
        simp only [Value.mapping.sizeOf_spec] at h₂
        omega
    | _ => simp [Value.get?, bind, Except.bind] at h

def entryType (entries : Entries) : Value := (entries.get? "type").getD (.text "SimpleItem")

def withoutItems {α : Type} (entries : Entries) : Except Fault α :=
  let named := (entries.get? "complexItemType").getD (.text "?")
  .error (refusal (s!"complex item '{·}' has no generated items") (named.shown Value.display))

mutual

def flatten (v : Value) : Except Fault (List Value) :=
  match v with
  | .list entries => flattenEntries entries
  | _ => refuse "plan items must be a list"
termination_by sizeOf v

def flattenEntries (entries : List Value) : Except Fault (List Value) :=
  match entries with
  | [] => .ok []
  | entry :: rest => do
    let leaves ← flattenEntry entry
    return leaves ++ (← flattenEntries rest)
termination_by sizeOf entries

def flattenEntry (entry : Value) : Except Fault (List Value) :=
  match entry with
  | .mapping fields =>
    if (entryType fields).isText "SimpleItem" then .ok [.mapping fields]
    else if (entryType fields).isText "ComplexItem" then
      match _h : nested? fields with
      | .error fault => .error fault
      | .ok none | .ok (some .null) => withoutItems fields
      | .ok (some nested) => flatten nested
    else .error (refusal (s!"unknown plan item type '{·}'") ((entryType fields).shown Value.display))
  | v => .error (refusal (s!"plan item must be an object, got {·}") (v.shown Value.literal))
termination_by sizeOf entry
decreasing_by
  have := sizeOf_nested? _h
  simp only [Value.mapping.sizeOf_spec]
  omega

end

def planItemsFrom (position : Nat) : List Value → Except Fault (List Item)
  | [] => .ok []
  | v :: rest => do
    let item ← Item.atPosition position (planItem v)
    return item :: (← planItemsFrom (position + 1) rest)

def readPlannedHome (v : Value) : Except Fault Home := do
  let values ← v.elements
  match ← (values.take 4).mapM Value.toReal with
  | [lat, lon, altitude] => return .ofNumbers lat lon altitude
  | numbers => throw (if numbers.length < 3 then .tooFewValues 3 numbers.length else .tooManyValues 3)

def plannedHome (v : Value) : Except Fault (Option Home) := do
  let given ← v.getD "plannedHomePosition" .null
  if given.isGiven then
    return some (← refusingWith [.kind, .value] (s!"invalid plannedHomePosition {·}") (given.shown Value.literal)
      (readPlannedHome given))
  else return none

def ofPlan (v : Value) : Except Fault Document := do
  let mission ← v.getD "mission" .null
  match mission with
  | .mapping _ =>
    let items ← planItemsFrom 1 (← flatten (← mission.getD "items" (.list [])))
    let home ← plannedHome mission
    let fence ← fenceUnder v "geoFence"
    return { items, home, fence }
  | _ => refuse "plan has no mission section"

def ofValue (v : Value) : Except Fault Document := do
  match v with
  | .mapping entries =>
    if ((Entries.get? entries "fileType").getD .null).isText "Plan" then ofPlan v else ofPlain v
  | _ => refuse "mission data must be an object"

end Preflight.Document

namespace Preflight

def FileTree.readJson (files : FileTree) (text : String) : Except Fault Value := do
  Json.parse (← Utf8.text (← files.read text))

namespace Document

def refuseFile (shown : String) : Fault → Fault
  | .malformedJson reason place =>
    .invalid s!"{shown} is not valid JSON: {(Fault.malformedJson reason place).message}"
  | fault => if fault.group = .file then .invalid s!"cannot read {shown}: {fault.message}" else fault

def load (files : FileTree) (path : Path) : Except Fault Document := do
  ofValue (← (files.readJson path.toText).mapError (refuseFile path.toText))

def loadNotes (path : Path) (d : Document) : List Log.Line :=
  d.fence.notes ++ [Log.line Log.info .missionFile s!"Loaded {d.items.length} items from {path.toText}"]

end Document

end Preflight
