/-
How severe the outcome of a hardware call is, and the failure it reports.
-/

namespace CameraDriver

/-- Severity of a hardware call's outcome. -/
inductive Signal where
  | ok
  /-- Reported to the caller only. -/
  | soft
  /-- The link is lost; the device has to be opened again. -/
  | hard
deriving DecidableEq, Repr

/-- The name of a signal. -/
def Signal.name : Signal → String
  | .ok => "ok"
  | .soft => "soft"
  | .hard => "hard"

/-- The signal of a status code: 0 is success, codes above 1 are hard, and
all others, the negative ones included, are soft. -/
def Signal.ofCode (code : Int) : Signal :=
  if code = 0 then .ok else if 1 < code then .hard else .soft

/-- A failure reported by a hardware call. -/
structure HardwareError where
  signal : Signal
  message : String
deriving DecidableEq, Repr

namespace HardwareError

/-- A failure from a status code. -/
def ofCode (code : Int) (message : String) : HardwareError := ⟨.ofCode code, message⟩

/-- A soft failure. -/
def soft (message : String) : HardwareError := ⟨.soft, message⟩

/-- A hard failure. -/
def hard (message : String) : HardwareError := ⟨.hard, message⟩

/-- Whether the failure takes the link down. -/
def isHard (e : HardwareError) : Bool := e.signal = .hard

/-- The wording with the signal. -/
def text (e : HardwareError) : String := e.message ++ " (signal " ++ e.signal.name ++ ")"

end HardwareError

end CameraDriver
