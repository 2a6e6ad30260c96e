namespace Preflight.Log

inductive Component where
  | store
  | missionFile
  | checker
  | checks
  | landing
  | events
  | fence
  | service
  | server
  deriving DecidableEq, Repr

def Component.channel : Component → String
  | store => "src.mission.store"
  | missionFile => "src.mission.plan_file"
  | checker => "src.feasibility.checker"
  | checks => "src.feasibility.checks"
  | landing => "src.feasibility.landing"
  | events => "src.feasibility.events"
  | fence => "src.feasibility.geofence"
  | service => "src.server.api"
  | server => "src.server.main"

def debug : Int := 10
def info : Int := 20
def warning : Int := 30
def error : Int := 40
def critical : Int := 50

def levelName (level : Int) : String :=
  if level = 0 then "NOTSET"
  else if level = debug then "DEBUG"
  else if level = info then "INFO"
  else if level = warning then "WARNING"
  else if level = error then "ERROR"
  else if level = critical then "CRITICAL"
  else s!"Level {level}"

structure Line where
  level : Int
  channel : String
  message : String
  deriving DecidableEq, Repr

def topChannel : String := "root"

def Line.channelName (line : Line) : String := if line.channel.isEmpty then topChannel else line.channel

def line (level : Int) (component : Component) (message : String) : Line := ⟨level, component.channel, message⟩

end Preflight.Log
