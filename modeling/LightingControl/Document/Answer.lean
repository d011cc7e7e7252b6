import LightingControl.Answer.Bitmap
import LightingControl.Answer.Controller
import LightingControl.Answer.Input
import LightingControl.Document.Event
/-!
# Answers as documents

The kinds of answer, each with the way in which its values are written.
-/

set_option autoImplicit false

namespace LightingControl

def EventFilterEntry.document (entry : EventFilterEntry) : Document :=
  .record [("address", .ofByte entry.address), ("instance", .ofByte entry.input),
    ("mask", .ofWord entry.mask.bits)]

def EventFilterPage.document (page : EventFilterPage) : Document :=
  .record [("mode", page.mode.document),
    ("entries", .ofList EventFilterEntry.document page.entries)]

def UnicastTarget.document (target : UnicastTarget) : Document :=
  .record [("mode", target.mode.document),
    ("addr", (Endpoint.v4 target.endpoint.ip target.endpoint.port).document)]

def Version.document (version : Version) : Document :=
  .record [("major", .ofByte version.major), ("minor", .ofByte version.minor),
    ("patch", .ofByte version.patch)]

def ProfileEntry.document (entry : ProfileEntry) : Document :=
  .record [("number", .ofWord entry.number), ("enabled", .boolean entry.enabled),
    ("priority", .text entry.priority.name)]

def ProfileInfo.document (info : ProfileInfo) : Document :=
  .record [("current", .ofWord info.current), ("last_scheduled", .ofWord info.lastScheduled),
    ("last_overridden_utc", .ofNat info.lastOverriddenUtc.toNat),
    ("last_scheduled_utc", .ofNat info.lastScheduledUtc.toNat),
    ("profiles", .ofList ProfileEntry.document info.profiles)]

def GearStatus.flags (status : GearStatus) : Document :=
  .record [("gear_failure", .boolean status.gearFailure),
    ("lamp_failure", .boolean status.lampFailure),
    ("lamp_power_on", .boolean status.lampPowerOn), ("limit_error", .boolean status.limitError),
    ("fade_running", .boolean status.fadeRunning), ("reset", .boolean status.reset),
    ("missing_short_address", .boolean status.missingShortAddress),
    ("power_failure", .boolean status.powerFailure)]

def ColourFeatures.document (features : ColourFeatures) : Document :=
  .record [("xy", .boolean features.xy), ("tunable", .boolean features.tunable),
    ("primaries", .ofByte features.primaries), ("rgbwaf_channels", .ofByte features.rgbwafChannels)]

def ColourTempLimits.document (limits : ColourTempLimits) : Document :=
  .record [("physical_warmest", .ofWord limits.physicalWarmest),
    ("physical_coolest", .ofWord limits.physicalCoolest),
    ("soft_warmest", .ofWord limits.softWarmest), ("soft_coolest", .ofWord limits.softCoolest),
    ("step", .ofWord limits.step)]

def GroupInfo.document (info : GroupInfo) : Document :=
  .record [("group", .ofByte info.group), ("occupied", .boolean info.occupied),
    ("level", .ofByte info.level)]

def InputKind.document : InputKind → Document
  | .pushButton => .text "PushButton"
  | .absoluteInput => .text "AbsoluteInput"
  | .occupancySensor => .text "OccupancySensor"
  | .lightSensor => .text "LightSensor"
  | .generalSensor => .text "GeneralSensor"
  | .other code => .record [("Other", .ofByte code)]

def InputInfo.document (info : InputInfo) : Document :=
  .record [("number", .ofByte info.number), ("kind", info.kind.document),
    ("active", .boolean info.active), ("error", .boolean info.error)]

def OccupancyTimers.document (timers : OccupancyTimers) : Document :=
  .record [("deadtime", .ofByte timers.deadtime), ("hold", .ofByte timers.hold),
    ("report", .ofByte timers.report), ("last_detect", .ofWord timers.lastDetect)]

def InputGroups.document (groups : InputGroups) : Document :=
  .record [("primary", .ofOption .ofByte groups.primary), ("first", .ofOption .ofByte groups.first),
    ("second", .ofOption .ofByte groups.second)]

structure AnswerForm where
  Value : Type
  [answer : Answer Value]
  write : Value → Document
  beside : Value → List (String × Document) := fun _ => []

namespace AnswerForm

def decode (form : AnswerForm) (data : Bytes) : Except WireError form.Value :=
  form.answer.decode data

def byte : AnswerForm := { Value := UInt8, write := .ofByte }

def flag : AnswerForm := { Value := Bool, write := .boolean }

def word : AnswerForm := { Value := UInt16, write := .ofWord }

def signedWord : AnswerForm := { Value := Int16, write := fun value => .number value.toInt }

/-- A number of up to eight bytes, in decimal text. -/
def longNumber : AnswerForm := { Value := UInt64, write := fun value => .text (toString value.toNat) }

def label : AnswerForm := { Value := String, write := .text }

def bytes : AnswerForm := { Value := Bytes, write := .ofList .ofByte }

def colour : AnswerForm := { Value := Colour, write := Colour.document }

def eventMode : AnswerForm := { Value := EventMode, write := EventMode.document }

def eventFilterPage : AnswerForm where
  Value := EventFilterPage
  write := EventFilterPage.document
  beside page := [("full", .boolean page.isFull)]

def unicastTarget : AnswerForm := { Value := UnicastTarget, write := UnicastTarget.document }

def version : AnswerForm where
  Value := Version
  write := Version.document
  beside version := [("display", .text version.text)]

def profileInfo : AnswerForm := { Value := ProfileInfo, write := ProfileInfo.document }

def profileNumbers : AnswerForm where
  Value := ProfileNumbers
  write answer := .ofList .ofWord answer.numbers

def addressBitmap : AnswerForm where
  Value := AddressBitmap
  write bitmap := .ofList .ofByte bitmap.members

def bitmap16 : AnswerForm where
  Value := Bitmap16
  write bitmap := .ofList .ofByte bitmap.members

def gearStatus : AnswerForm where
  Value := GearStatus
  write status := .ofByte status.bits
  beside status := [("flags", status.flags)]

def colourFeatures : AnswerForm := { Value := ColourFeatures, write := ColourFeatures.document }

def colourTempLimits : AnswerForm :=
  { Value := ColourTempLimits, write := ColourTempLimits.document }

def sceneLevels : AnswerForm where
  Value := SceneLevels
  write scenes := .ofList (.ofOption .ofByte) scenes.levels

def sceneColours : AnswerForm where
  Value := SceneColours
  write scenes := .ofList (.ofOption Colour.document) scenes.colours

def arcLevel : AnswerForm where
  Value := ArcLevel
  write arc := .ofOption .ofByte arc.level
  beside arc := [("mixed", .boolean arc.isMixed)]

def groupInfo : AnswerForm := { Value := GroupInfo, write := GroupInfo.document }

def inputs : AnswerForm where
  Value := Inputs
  write answer := .ofList InputInfo.document answer.inputs

def occupancyTimers : AnswerForm := { Value := OccupancyTimers, write := OccupancyTimers.document }

def inputGroups : AnswerForm := { Value := InputGroups, write := InputGroups.document }

def buttonLed : AnswerForm := { Value := ButtonLed, write := fun led => .boolean led.on }

end AnswerForm

end LightingControl
