/-
Capturing an image and reporting it.

A trigger grabs one frame at once, marks the device busy and leaves the rest
to an upload: it gives the frame back, sends one request, and when that has
ended the device is no longer busy. The trigger mode is stored if the image
was taken and no later trigger took effect meanwhile.
-/
import CameraDriver.Device.Site

namespace CameraDriver

/-- What a trigger did. -/
inductive Triggered where
  /-- A frame was captured and its upload started. -/
  | started
  /-- An upload has not finished; the trigger was dropped. -/
  | busy
  /-- No endpoint is set; nothing was captured. -/
  | noEndpoint
deriving DecidableEq, Repr

namespace Site

variable {σ H F : Type} [Camera σ H F]

/-- Grabs a frame and starts to upload it. -/
def trigger (mode : TriggerMode) (s : Site σ H F) :
    Except HardwareError Triggered × Site σ H F :=
  let record := s.device.record
  match record.capture.endpoint with
  | none => (.ok .noEndpoint, s)
  | some endpoint =>
      if record.publishBusy then (.ok .busy, s)
      else
        match record.handle with
        | none => (.error (.soft "device is not open"), s)
        | some c =>
            let format := record.capture.format.name
            let (result, camera) := Camera.grabImage c.handle format s.camera
            match result with
            | .error e =>
                (.error e,
                  { camera, device := s.device.note (.grabbed c.number format (.error e)) })
            | .ok frame =>
                let size := (Camera.frameBytes σ frame).length
                let device := s.device.note (.grabbed c.number format (.ok size))
                let device := device.modifyRecord fun r =>
                  { r.nextGeneration with publishBusy := true }
                let upload : Upload F :=
                  { generation := device.record.triggerGeneration, mode, endpoint
                    stage := .captured frame }
                (.ok .started,
                  { camera, device := { device with uploads := device.uploads ++ [upload] } })

/-- Gives the frame of an upload back and sends its request, which is given
up after `timeout`. -/
def sendUpload (timeout now generation : Nat) (s : Site σ H F) : Site σ H F :=
  match s.device.upload? generation with
  | some { stage := .captured frame, endpoint, .. } =>
      let request := Request.ofImage endpoint (Camera.frameBytes σ frame)
      { camera := Camera.freeImage frame s.camera
        device :=
          { (s.device.note .freed).note (.posted request) with
            uploads := s.device.uploads.map fun u =>
              if u.generation = generation then { u with stage := .sent (now + timeout) }
              else u } }
  | _ => s

/-- Ends an upload whose request is out. -/
def finishUpload (generation : Nat) (outcome : UploadOutcome) (s : Site σ H F) : Site σ H F :=
  match s.device.upload? generation with
  | some { stage := .sent _, mode, .. } =>
      s.onDevice fun d =>
        let d := { d with uploads := d.uploads.filter (·.generation ≠ generation) }
        d.modifyRecord fun r =>
          let kept : Record (Connection H) :=
            if outcome.isSuccess && r.triggerGeneration = generation then
              { r with capture := { r.capture with trigger := mode } }
            else r
          { kept with publishBusy := false }
  | _ => s

end Site

end CameraDriver
