import Preflight.CommandLine
import Preflight.Proofs.Files
import Preflight.Proofs.Files.Directories
import Preflight.Proofs.Json.LineEnds
import Preflight.Proofs.Json.Overlong
import Preflight.Proofs.Reads

namespace Preflight

open Json (IsDocument HasOverlong)

namespace Document

def IsLegible (octets : List UInt8) : Prop := ∃ text : String, octets = Utf8.octets text ∧ IsDocument text.toList

/-- What is given up without a refusal: octets that are no text, and a text in which a whole number with too many digits
comes before the place where it stops being JSON. -/
inductive IsGivenUp (octets : List UInt8) : Prop
  | encoding (odd : ∀ text : String, octets ≠ Utf8.octets text)
  | digits {text : String} {n : Nat} (given : octets = Utf8.octets text)
    (long : Json.parse (Utf8.unifyLineEnds text.toList) = .error (.tooManyDigits n))

theorem run_of_unified {cs digits : List Char} (inner : '\n' ∉ digits) (h : digits <:+: Utf8.unifyLineEnds cs) :
    digits <:+: cs := by
  obtain ⟨before, after, h⟩ := h
  obtain ⟨front, after', rfl, hfront, -⟩ := Utf8.unifyLineEnds_eq_append h.symm
  obtain ⟨before', run, rfl, -, hrun⟩ := Utf8.unifyLineEnds_eq_append hfront
  exact ⟨before', after', by rw [Utf8.eq_of_unifyLineEnds hrun inner]⟩

theorem hasOverlong_of_parse {cs : List Char} {n : Nat}
    (h : Json.parse (Utf8.unifyLineEnds cs) = .error (.tooManyDigits n)) : HasOverlong n cs := by
  unfold Json.parse at h
  cases read : Json.readDocument (Utf8.unifyLineEnds cs) with
  | ok v =>
    rw [read] at h
    cases h
  | error flaw =>
    rw [read] at h
    cases flaw with
    | expected reason offset => cases h
    | tooManyDigits digits =>
      cases h
      obtain ⟨run, inside, areDigits, rest⟩ := Json.overlong_of_readDocument read
      exact ⟨run, run_of_unified (Json.not_feed_of_digits areDigits) inside, areDigits, rest⟩

theorem parse_of_not_isDocument {cs : List Char} (h : ¬ IsDocument cs) :
    (∃ reason place, Json.parse (Utf8.unifyLineEnds cs) = .error (.malformedJson reason place)) ∨
      ∃ n, Json.parse (Utf8.unifyLineEnds cs) = .error (.tooManyDigits n) := by
  unfold Json.parse
  cases read : Json.readDocument (Utf8.unifyLineEnds cs) with
  | ok v => exact absurd (Json.isDocument_of_unified (Json.isDocument_of_readDocument read)) h
  | error flaw =>
    cases flaw with
    | expected reason offset => exact .inl ⟨_, _, rfl⟩
    | tooManyDigits n => exact .inr ⟨n, rfl⟩

inductive Surrenders (octets : List UInt8) : Fault → Prop
  | encoding (flaw : Utf8.Flaw) (odd : ∀ text : String, octets ≠ Utf8.octets text) :
    Surrenders octets (.undecodable flaw)
  | digits {text : String} {n : Nat} (given : octets = Utf8.octets text) (long : HasOverlong n text.toList) :
    Surrenders octets (.tooManyDigits n)

section

variable {files : FileTree} {path : Path} {octets : List UInt8}

theorem load_of_octets (there : files.read path.toText = .ok octets) : load files path =
    ((Utf8.text octets >>= Json.parse).mapError (refuseFile path.toText) >>= ofValue) := by
  unfold load FileTree.readJson
  rw [there]
  rfl

theorem load_cases (there : files.read path.toText = .ok octets) (illegible : ¬ IsLegible octets) :
    (∃ reason place, load files path =
        .error (.invalid s!"{path.toText} is not valid JSON: {(Fault.malformedJson reason place).message}")) ∧
      ¬ IsGivenUp octets ∨
    IsGivenUp octets ∧ ∃ fault, load files path = .error fault ∧ Surrenders octets fault := by
  rw [load_of_octets there]
  rcases Utf8.text_cases octets with ⟨text, given, read⟩ | ⟨odd, flaw, unread⟩
  · have refused : ¬ IsDocument text.toList := fun h => illegible ⟨text, given, h⟩
    rw [read, Fault.ok_bind]
    rcases parse_of_not_isDocument refused with ⟨reason, place, flawed⟩ | ⟨n, long⟩
    · rw [flawed]
      refine .inl ⟨⟨reason, place, rfl⟩, ?_⟩
      rintro (odd | ⟨given', long⟩)
      · exact odd text given
      · obtain rfl := Utf8.octets_injective (given.symm.trans given')
        rw [flawed] at long
        cases long
    · rw [long]
      exact .inr ⟨.digits given long, _, rfl, .digits given (hasOverlong_of_parse long)⟩
  · rw [unread]
    exact .inr ⟨.encoding odd, _, rfl, .encoding flaw odd⟩

end

end Document

namespace CommandLine.Started

variable {s : Started} {path : Path}

theorem refuse_unlogged (s : Started) (reason : String) : s.refuse [] reason =
    .ok { exit := notChecked, messages := [Report.paint s.colors .red s!"Error: {reason}"]
          files := s.surroundings.files } := by
  have written : s.journal.write s.surroundings.files [] = .ok s.surroundings.files := by
    unfold Log.Journal.write
    split <;> rfl
  unfold refuse finish
  change (s.journal.write s.surroundings.files [] >>= _) = _
  rw [written]
  rfl

def missionPath (s : Started) : Path := Path.ofText (s.field "file").display

theorem check_of_invalid {reason : String}
    (h : Document.load s.surroundings.files s.missionPath = .error (.invalid reason)) :
    s.check = s.refuse [] reason := by
  unfold check
  dsimp only
  rw [missionPath] at h
  rw [h]

theorem check_of_fault {fault : Fault} (h : Document.load s.surroundings.files s.missionPath = .error fault)
    (other : ∀ reason, fault ≠ .invalid reason) : s.check = .error fault := by
  unfold check
  dsimp only
  rw [missionPath] at h
  rw [h]
  cases fault with
  | invalid reason => exact absurd rfl (other reason)
  | _ => rfl

end CommandLine.Started

theorem Document.Surrenders.ne_invalid {octets : List UInt8} {fault : Fault} (h : Surrenders octets fault)
    (reason : String) : fault ≠ .invalid reason := by
  cases h <;> nofun

/-- A file that holds no JSON text is refused, unless it is given up; and then the check of it prints one message and
nothing else, and ends with the exit code for a file that could not be checked. What is given up goes through the check
as a fault: its octets are no text, or its text has a run of more digits than the reader takes. -/
theorem illegible_refused_iff {files : FileTree} {path : Path} {octets : List UInt8}
    (there : files.read path.toText = .ok octets) (illegible : ¬ Document.IsLegible octets) :
    ((∃ reason, Document.load files path = .error (.invalid reason)) ↔ ¬ Document.IsGivenUp octets) ∧
    (¬ Document.IsGivenUp octets → ∀ s : CommandLine.Started, s.surroundings.files = files → s.missionPath = path →
      ∃ message, s.check = .ok { exit := 2, output := "", messages := [message], files }) ∧
    (Document.IsGivenUp octets → ∃ fault, Document.load files path = .error fault ∧ Document.Surrenders octets fault ∧
      ∀ s : CommandLine.Started, s.surroundings.files = files → s.missionPath = path → s.check = .error fault) := by
  rcases Document.load_cases there illegible with ⟨⟨reason, place, refused⟩, kept⟩ | ⟨givenUp, fault, lost, surrenders⟩
  · refine ⟨iff_of_true ⟨_, refused⟩ kept, fun _ => ?_, fun givenUp => absurd givenUp kept⟩
    rintro s rfl rfl
    rw [CommandLine.Started.check_of_invalid refused, CommandLine.Started.refuse_unlogged]
    exact ⟨_, rfl⟩
  · have other := surrenders.ne_invalid
    refine ⟨iff_of_false ?_ (not_not_intro givenUp), fun kept => absurd givenUp kept, fun _ => ?_⟩
    · rintro ⟨reason, refused⟩
      rw [lost] at refused
      exact other reason (Except.error.inj refused)
    · refine ⟨fault, lost, surrenders, ?_⟩
      rintro s rfl rfl
      exact CommandLine.Started.check_of_fault lost other

theorem illegible_refused_empty :
    let files : FileTree := { nodes := [(["m.json"], .file [])] }
    let path : Path := ⟨"", ["m.json"]⟩
    let s : CommandLine.Started :=
      { surroundings := { files }, journal := { level := Log.debug }, settings := {}, fields := [("file", .text "m.json")] }
    files.read path.toText = .ok [] ∧ ¬ Document.IsLegible [] ∧ ¬ Document.IsGivenUp [] ∧
      (∃ reason, Document.load files path = .error (.invalid reason)) ∧ s.missionPath = path ∧
      ∃ message, s.check = .ok { exit := 2, output := "", messages := [message], files } := by
  intro files path s
  have name : FileTree.IsFileName "m.json" := by decide
  have there : files.read path.toText = .ok [] := FileTree.read_of_file (FileTree.place_name name rfl) rfl
  have illegible : ¬ Document.IsLegible [] := by
    rintro ⟨text, given, isDocument⟩
    obtain rfl : "" = text := Utf8.octets_injective given
    exact Json.not_isDocument_nil isDocument
  obtain ⟨refused, checked, -⟩ := illegible_refused_iff there illegible
  have found : ∃ reason, Document.load files path = .error (.invalid reason) := by
    rw [Document.load_of_octets there]
    exact ⟨_, rfl⟩
  have kept := refused.mp found
  have named : s.missionPath = path := Path.ofText_of_isName name.toIsName
  exact ⟨there, illegible, kept, found, named, checked kept s rfl named⟩

theorem illegible_not_refused :
    let files : FileTree := { nodes := [(["m.json"], .file [255])] }
    let path : Path := ⟨"", ["m.json"]⟩
    let fault : Fault := .undecodable ⟨.invalidStart, 0, 1, 255⟩
    files.read path.toText = .ok [255] ∧ ¬ Document.IsLegible [255] ∧ Document.load files path = .error fault ∧
      ∀ s : CommandLine.Started, s.surroundings.files = files → s.missionPath = path → s.check = .error fault := by
  intro files path fault
  have name : FileTree.IsFileName "m.json" := by decide
  have there : files.read path.toText = .ok [255] := FileTree.read_of_file (FileTree.place_name name rfl) rfl
  have illegible : ¬ Document.IsLegible [255] := by
    rintro ⟨text, given, -⟩
    have read := Utf8.decode_eq_ok.mpr (Utf8.map_toNat_eq.mpr given)
    cases read
  have lost : Document.load files path = .error fault := by
    rw [Document.load_of_octets there]
    rfl
  refine ⟨there, illegible, lost, ?_⟩
  rintro s hfiles hpath
  rw [← hfiles, ← hpath] at lost
  exact CommandLine.Started.check_of_fault lost nofun

end Preflight
