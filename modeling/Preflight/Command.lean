namespace Preflight

inductive Command where
  | idle
  | waypoint
  | loiterUnlimited
  | loiterTurns
  | loiterTimeLimit
  | returnToLaunch
  | land
  | takeoff
  | loiterToAlt
  | doFollowReposition
  | vtolTakeoff
  | vtolLand
  | delay
  | doJump
  | doChangeSpeed
  | doSetHome
  | doSetServo
  | doSetActuator
  | doLandStart
  | doSetRoiLocation
  | doSetRoiWpnextOffset
  | doSetRoiNone
  | doControlVideo
  | doSetRoi
  | doDigicamControl
  | doMountConfigure
  | doMountControl
  | doSetCamTriggDist
  | doGripper
  | doSetCamTriggInterval
  | obliqueSurvey
  | setCameraMode
  | setCameraZoom
  | setCameraFocus
  | doGimbalManagerPitchyaw
  | doGimbalManagerConfigure
  | imageStartCapture
  | imageStopCapture
  | doTriggerControl
  | videoStartCapture
  | videoStopCapture
  | doVtolTransition
  | conditionGate
  | fenceReturnPoint
  | fencePolygonVertexInclusion
  | fencePolygonVertexExclusion
  | fenceCircleInclusion
  | fenceCircleExclusion
  | rallyPoint
  | doWinch
  deriving DecidableEq, Repr

structure Capability where
  supported : Bool
  hasPosition : Bool
  preTakeoff : Bool
  deriving DecidableEq, Repr

namespace Capability

def unknown : Capability := ⟨false, false, false⟩
def located : Capability := ⟨true, true, false⟩
def plain : Capability := ⟨true, false, false⟩
def preparing : Capability := ⟨true, false, true⟩
def locatedOnly : Capability := ⟨false, true, false⟩

end Capability

namespace Command

def code : Command → Nat
  | idle => 0
  | waypoint => 16
  | loiterUnlimited => 17
  | loiterTurns => 18
  | loiterTimeLimit => 19
  | returnToLaunch => 20
  | land => 21
  | takeoff => 22
  | loiterToAlt => 31
  | doFollowReposition => 33
  | vtolTakeoff => 84
  | vtolLand => 85
  | delay => 93
  | doJump => 177
  | doChangeSpeed => 178
  | doSetHome => 179
  | doSetServo => 183
  | doSetActuator => 187
  | doLandStart => 189
  | doSetRoiLocation => 195
  | doSetRoiWpnextOffset => 196
  | doSetRoiNone => 197
  | doControlVideo => 200
  | doSetRoi => 201
  | doDigicamControl => 203
  | doMountConfigure => 204
  | doMountControl => 205
  | doSetCamTriggDist => 206
  | doGripper => 211
  | doSetCamTriggInterval => 214
  | obliqueSurvey => 260
  | setCameraMode => 530
  | setCameraZoom => 531
  | setCameraFocus => 532
  | doGimbalManagerPitchyaw => 1000
  | doGimbalManagerConfigure => 1001
  | imageStartCapture => 2000
  | imageStopCapture => 2001
  | doTriggerControl => 2003
  | videoStartCapture => 2500
  | videoStopCapture => 2501
  | doVtolTransition => 3000
  | conditionGate => 4501
  | fenceReturnPoint => 5000
  | fencePolygonVertexInclusion => 5001
  | fencePolygonVertexExclusion => 5002
  | fenceCircleInclusion => 5003
  | fenceCircleExclusion => 5004
  | rallyPoint => 5100
  | doWinch => 42600

def name : Command → String
  | idle => "IDLE"
  | waypoint => "WAYPOINT"
  | loiterUnlimited => "LOITER_UNLIMITED"
  | loiterTurns => "LOITER_TURNS"
  | loiterTimeLimit => "LOITER_TIME_LIMIT"
  | returnToLaunch => "RETURN_TO_LAUNCH"
  | land => "LAND"
  | takeoff => "TAKEOFF"
  | loiterToAlt => "LOITER_TO_ALT"
  | doFollowReposition => "DO_FOLLOW_REPOSITION"
  | vtolTakeoff => "VTOL_TAKEOFF"
  | vtolLand => "VTOL_LAND"
  | delay => "DELAY"
  | doJump => "DO_JUMP"
  | doChangeSpeed => "DO_CHANGE_SPEED"
  | doSetHome => "DO_SET_HOME"
  | doSetServo => "DO_SET_SERVO"
  | doSetActuator => "DO_SET_ACTUATOR"
  | doLandStart => "DO_LAND_START"
  | doSetRoiLocation => "DO_SET_ROI_LOCATION"
  | doSetRoiWpnextOffset => "DO_SET_ROI_WPNEXT_OFFSET"
  | doSetRoiNone => "DO_SET_ROI_NONE"
  | doControlVideo => "DO_CONTROL_VIDEO"
  | doSetRoi => "DO_SET_ROI"
  | doDigicamControl => "DO_DIGICAM_CONTROL"
  | doMountConfigure => "DO_MOUNT_CONFIGURE"
  | doMountControl => "DO_MOUNT_CONTROL"
  | doSetCamTriggDist => "DO_SET_CAM_TRIGG_DIST"
  | doGripper => "DO_GRIPPER"
  | doSetCamTriggInterval => "DO_SET_CAM_TRIGG_INTERVAL"
  | obliqueSurvey => "OBLIQUE_SURVEY"
  | setCameraMode => "SET_CAMERA_MODE"
  | setCameraZoom => "SET_CAMERA_ZOOM"
  | setCameraFocus => "SET_CAMERA_FOCUS"
  | doGimbalManagerPitchyaw => "DO_GIMBAL_MANAGER_PITCHYAW"
  | doGimbalManagerConfigure => "DO_GIMBAL_MANAGER_CONFIGURE"
  | imageStartCapture => "IMAGE_START_CAPTURE"
  | imageStopCapture => "IMAGE_STOP_CAPTURE"
  | doTriggerControl => "DO_TRIGGER_CONTROL"
  | videoStartCapture => "VIDEO_START_CAPTURE"
  | videoStopCapture => "VIDEO_STOP_CAPTURE"
  | doVtolTransition => "DO_VTOL_TRANSITION"
  | conditionGate => "CONDITION_GATE"
  | fenceReturnPoint => "FENCE_RETURN_POINT"
  | fencePolygonVertexInclusion => "FENCE_POLYGON_VERTEX_INCLUSION"
  | fencePolygonVertexExclusion => "FENCE_POLYGON_VERTEX_EXCLUSION"
  | fenceCircleInclusion => "FENCE_CIRCLE_INCLUSION"
  | fenceCircleExclusion => "FENCE_CIRCLE_EXCLUSION"
  | rallyPoint => "RALLY_POINT"
  | doWinch => "DO_WINCH"

def all : List Command := [
   .idle, .waypoint, .loiterUnlimited, .loiterTurns, .loiterTimeLimit, .returnToLaunch, .land, .takeoff,
   .loiterToAlt, .doFollowReposition, .vtolTakeoff, .vtolLand, .delay, .doJump, .doChangeSpeed, .doSetHome,
   .doSetServo, .doSetActuator, .doLandStart, .doSetRoiLocation, .doSetRoiWpnextOffset, .doSetRoiNone,
   .doControlVideo, .doSetRoi, .doDigicamControl, .doMountConfigure, .doMountControl, .doSetCamTriggDist,
   .doGripper, .doSetCamTriggInterval, .obliqueSurvey, .setCameraMode, .setCameraZoom, .setCameraFocus,
   .doGimbalManagerPitchyaw, .doGimbalManagerConfigure, .imageStartCapture, .imageStopCapture,
   .doTriggerControl, .videoStartCapture, .videoStopCapture, .doVtolTransition, .conditionGate,
   .fenceReturnPoint, .fencePolygonVertexInclusion, .fencePolygonVertexExclusion, .fenceCircleInclusion,
   .fenceCircleExclusion, .rallyPoint, .doWinch]

def ofCode? (code : Int) : Option Command := all.find? fun c => (c.code : Int) == code

theorem ofCode?_code (c : Command) : ofCode? c.code = some c := by cases c <;> rfl

theorem code_injective {a b : Command} (h : a.code = b.code) : a = b := by
  have found := ofCode?_code a
  rw [h, ofCode?_code] at found
  exact (Option.some.inj found).symm

def capability? : Command → Option Capability
  | waypoint | loiterUnlimited | loiterTimeLimit | land | takeoff | loiterToAlt | vtolTakeoff
  | vtolLand | conditionGate => some .located
  | idle | returnToLaunch | doSetActuator | doGripper | doWinch => some .plain
  | delay | doJump | doChangeSpeed | doSetHome | doSetServo | doLandStart | doSetRoiLocation
  | doSetRoiWpnextOffset | doSetRoiNone | doControlVideo | doSetRoi | doDigicamControl
  | doMountConfigure | doMountControl | doSetCamTriggDist | doSetCamTriggInterval | obliqueSurvey
  | setCameraMode | setCameraZoom | setCameraFocus | doGimbalManagerPitchyaw
  | doGimbalManagerConfigure | imageStartCapture | imageStopCapture | doTriggerControl
  | videoStartCapture | videoStopCapture | doVtolTransition => some .preparing
  | loiterTurns | doFollowReposition => some .locatedOnly
  | fenceReturnPoint | fencePolygonVertexInclusion | fencePolygonVertexExclusion
  | fenceCircleInclusion | fenceCircleExclusion | rallyPoint => none

def capability (c : Command) : Capability := c.capability?.getD .unknown

end Command

def Capability.ofCode (code : Int) : Capability := ((Command.ofCode? code).map Command.capability).getD .unknown

def Command.nameOfCode (code : Int) : String :=
  match Command.ofCode? code with
  | some c => c.name
  | none => s!"UNKNOWN({code})"

end Preflight
