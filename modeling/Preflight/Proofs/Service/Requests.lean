import Preflight.Proofs.Service.Targets
import Preflight.Proofs.Text.Utf8
import Preflight.Service

namespace Preflight

namespace Request

structure Posts (r : Request) (target : String) (v : Value) : Prop where
  method : r.method = "POST"
  target : r.target = target
  whole : r.isWhole = true
  document : r.document = v

theorem posts_of_json {r : Request} {v : Value} (method : r.method = "POST")
    (kind : r.contentType = some "application/json") (body : Json.ofOctets? (r.body.map UInt8.toNat) = some v) :
    r.Posts r.target v := by
  have whole : r.isWhole = true := by
    rw [isWhole, kind]
    rfl
  have media : r.mediaType = "application/json" := by
    rw [mediaType, kind, ← String.toList_inj, Text.toLower, String.toList_map]
    rfl
  have json : r.isJson = true := by rw [isJson, media, beq_self_eq_true, Bool.true_or]
  refine ⟨method, rfl, whole, ?_⟩
  rw [document, if_pos json, body]
  rfl

def posting (target text : String) : Request :=
  { method := "POST", target, contentType := some "application/json", body := Utf8.octets text }

theorem posts_posting {target text : String} {cs : List Char} {v : Value} (letters : text.toList = cs)
    (read : Json.ofOctets? (Utf8.encode cs) = some v) : (posting target text).Posts target v := by
  apply posts_of_json (r := posting target text) rfl rfl
  rw [posting, Utf8.map_toNat_eq.mpr rfl, letters]
  exact read

end Request

namespace Service

variable {s : Service} {r : Request} {v : Value}

theorem answer_posted {target : String} {path : List Char} {endpoint : Endpoint} (posted : r.Posts target v)
    (reached : Target.path target = .ok path) (route : Route.ofPath "POST" path = .to endpoint) :
    s.answer r = s.answerAt endpoint r := by
  unfold answer answerPath
  have method : Text.toUpper r.method = "POST" := by
    rw [posted.method, ← String.toList_inj, Text.toUpper, String.toList_map]
    rfl
  rw [posted.target, reached, posted.whole, method]
  dsimp only
  rw [route]
  rfl

theorem answer_check (posted : r.Posts "/api/missions/check" v) : s.answer r = s.checkDocument v := by
  have route : Route.ofPath "POST" "api/missions/check".toList = .to .checkDocument := by rfl
  rw [answer_posted posted rfl route, answerAt, posted.document]

theorem answer_create (posted : r.Posts "/api/missions" v) : s.answer r = s.create v := by
  have route : Route.ofPath "POST" "api/missions".toList = .to .create := by rfl
  rw [answer_posted posted rfl route, answerAt, posted.document]

def checkStoredNames (id : String) : List String := ["api", "missions", id, "check"]

theorem plain_checkStoredNames {id : String} (h : Target.IsPlainName id) :
    ∀ name ∈ checkStoredNames id, Target.IsPlainName name := by
  simp only [checkStoredNames, List.forall_mem_cons, List.not_mem_nil, false_imp_iff, implies_true, and_true]
  exact ⟨by decide, by decide, h, by decide⟩

theorem route_checkStored {id : String} (h : Target.IsPlainName id) :
    Route.ofPath "POST" (['/'].intercalate ((checkStoredNames id).map String.toList)) = .to (.checkStored id) := by
  have given : id.isEmpty = false := by simpa using h.given
  have found : Endpoint.atPath (checkStoredNames id) = [.checkStored id] := by
    simp [Endpoint.atPath, checkStoredNames, given]
  unfold Route.ofPath
  rw [Target.segments_targetOf (by simp [checkStoredNames]) (plain_checkStoredNames h), found]
  rfl

theorem answer_checkStored {id : String} (h : Target.IsPlainName id)
    (posted : r.Posts ("/api/missions/" ++ id ++ "/check") v) : s.answer r = s.checkStored id v := by
  have target : "/api/missions/" ++ id ++ "/check" = Target.targetOf (checkStoredNames id) := by
    simp [Target.targetOf, checkStoredNames, ← String.toList_inj]
  have reached := Target.path_targetOf (plain_checkStoredNames h)
  rw [← target] at reached
  rw [answer_posted posted reached (route_checkStored h), answerAt, posted.document]

end Service

end Preflight
