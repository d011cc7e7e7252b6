import LightingControl.Command.Basic
import LightingControl.EventSettings
/-!
# Operations

Every operation a controller offers, as data: the operations on the whole controller, on an address
and on an input of a device are listed with their names and codes, and each operation with further
arguments is a constructor of `Operation`.  `Operation.command` checks the arguments and gives the
command; the checks of an operation run in the order in which its arguments are listed, target first.
-/

set_option autoImplicit false

namespace LightingControl

inductive ControllerOperation where
  | queryControllerVersion
  | queryControllerLabel
  | queryControllerFittingNumber
  | queryControllerStartupComplete
  | queryDaliReady
  | queryEventEmitState
  | queryUnicastTarget
  | queryGroupNumbers
  | queryProfileInformation
  | queryProfileNumbers
  | queryCurrentProfile
  | queryControlGearAddresses
  deriving DecidableEq, Repr

namespace ControllerOperation

def all : List ControllerOperation :=
  [.queryControllerVersion, .queryControllerLabel, .queryControllerFittingNumber,
    .queryControllerStartupComplete, .queryDaliReady, .queryEventEmitState, .queryUnicastTarget,
    .queryGroupNumbers, .queryProfileInformation, .queryProfileNumbers, .queryCurrentProfile,
    .queryControlGearAddresses]

def name : ControllerOperation → String
  | .queryControllerVersion => "query controller version"
  | .queryControllerLabel => "query controller label"
  | .queryControllerFittingNumber => "query controller fitting number"
  | .queryControllerStartupComplete => "query controller startup complete"
  | .queryDaliReady => "query DALI ready"
  | .queryEventEmitState => "query event emit state"
  | .queryUnicastTarget => "query unicast target"
  | .queryGroupNumbers => "query group numbers"
  | .queryProfileInformation => "query profile information"
  | .queryProfileNumbers => "query profile numbers"
  | .queryCurrentProfile => "query current profile"
  | .queryControlGearAddresses => "query control gear addresses"

def code : ControllerOperation → UInt8
  | .queryControllerVersion => 0x1C
  | .queryControllerLabel => 0x24
  | .queryControllerFittingNumber => 0x25
  | .queryControllerStartupComplete => 0x27
  | .queryDaliReady => 0x26
  | .queryEventEmitState => 0x07
  | .queryUnicastTarget => 0x41
  | .queryGroupNumbers => 0x09
  | .queryProfileInformation => 0x43
  | .queryProfileNumbers => 0x0B
  | .queryCurrentProfile => 0x05
  | .queryControlGearAddresses => 0x1D

end ControllerOperation

inductive AddressOperation where
  | queryOperatingMode
  | queryDeviceLabel
  | querySerial
  | queryFittingNumber
  | queryEan
  | queryGroupMembership
  | queryGroupLabel
  | querySceneNumbersForGroup
  | queryGroupByNumber
  | queryInstances
  | queryLevel
  | queryGearType
  | queryColourFeatures
  | queryColourTempLimits
  | queryGearStatus
  | queryColour
  | onStepUp
  | stepDownOff
  | up
  | down
  | recallMax
  | recallMin
  | off
  | queryMinLevel
  | queryMaxLevel
  | queryFadeRunning
  | enableDapcSequence
  | goToLastActiveLevel
  | stopFade
  | querySceneNumbers
  | querySceneLevels
  | queryLastScene
  | queryLastSceneIsCurrent
  | queryColourSceneMembership
  | queryColourScenes0To7
  | queryColourScenes8To11
  deriving DecidableEq, Repr

namespace AddressOperation

def all : List AddressOperation :=
  [.queryOperatingMode, .queryDeviceLabel, .querySerial, .queryFittingNumber, .queryEan,
    .queryGroupMembership, .queryGroupLabel, .querySceneNumbersForGroup, .queryGroupByNumber,
    .queryInstances, .queryLevel, .queryGearType, .queryColourFeatures, .queryColourTempLimits,
    .queryGearStatus, .queryColour, .onStepUp, .stepDownOff, .up, .down, .recallMax, .recallMin,
    .off, .queryMinLevel, .queryMaxLevel, .queryFadeRunning, .enableDapcSequence,
    .goToLastActiveLevel, .stopFade, .querySceneNumbers, .querySceneLevels, .queryLastScene,
    .queryLastSceneIsCurrent, .queryColourSceneMembership, .queryColourScenes0To7,
    .queryColourScenes8To11]

def name : AddressOperation → String
  | .queryOperatingMode => "query operating mode"
  | .queryDeviceLabel => "query device label"
  | .querySerial => "query serial"
  | .queryFittingNumber => "query fitting number"
  | .queryEan => "query EAN"
  | .queryGroupMembership => "query group membership"
  | .queryGroupLabel => "query group label"
  | .querySceneNumbersForGroup => "query scene numbers for group"
  | .queryGroupByNumber => "query group by number"
  | .queryInstances => "query instances"
  | .queryLevel => "query level"
  | .queryGearType => "query gear type"
  | .queryColourFeatures => "query colour features"
  | .queryColourTempLimits => "query colour temp limits"
  | .queryGearStatus => "query gear status"
  | .queryColour => "query colour"
  | .onStepUp => "on step up"
  | .stepDownOff => "step down off"
  | .up => "up"
  | .down => "down"
  | .recallMax => "recall max"
  | .recallMin => "recall min"
  | .off => "off"
  | .queryMinLevel => "query min level"
  | .queryMaxLevel => "query max level"
  | .queryFadeRunning => "query fade running"
  | .enableDapcSequence => "enable DAPC sequence"
  | .goToLastActiveLevel => "go to last active level"
  | .stopFade => "stop fade"
  | .querySceneNumbers => "query scene numbers"
  | .querySceneLevels => "query scene levels"
  | .queryLastScene => "query last scene"
  | .queryLastSceneIsCurrent => "query last scene is current"
  | .queryColourSceneMembership => "query colour scene membership"
  | .queryColourScenes0To7 => "query colour scenes 0-7"
  | .queryColourScenes8To11 => "query colour scenes 8-11"

def code : AddressOperation → UInt8
  | .queryOperatingMode => 0x28
  | .queryDeviceLabel => 0x03
  | .querySerial => 0xB9
  | .queryFittingNumber => 0x22
  | .queryEan => 0xB8
  | .queryGroupMembership => 0x15
  | .queryGroupLabel => 0x01
  | .querySceneNumbersForGroup => 0x1A
  | .queryGroupByNumber => 0x12
  | .queryInstances => 0x0D
  | .queryLevel => 0xAA
  | .queryGearType => 0xAC
  | .queryColourFeatures => 0x35
  | .queryColourTempLimits => 0x38
  | .queryGearStatus => 0xAB
  | .queryColour => 0x34
  | .onStepUp => 0xA3
  | .stepDownOff => 0xA4
  | .up => 0xA5
  | .down => 0xA6
  | .recallMax => 0xA7
  | .recallMin => 0xA8
  | .off => 0xA9
  | .queryMinLevel => 0xAF
  | .queryMaxLevel => 0xB0
  | .queryFadeRunning => 0xB1
  | .enableDapcSequence => 0xB2
  | .goToLastActiveLevel => 0xB5
  | .stopFade => 0xC1
  | .querySceneNumbers => 0x14
  | .querySceneLevels => 0x1E
  | .queryLastScene => 0xAD
  | .queryLastSceneIsCurrent => 0xAE
  | .queryColourSceneMembership => 0x44
  | .queryColourScenes0To7 => 0x45
  | .queryColourScenes8To11 => 0x46

def accepts : AddressOperation → List TargetClass
  | .queryOperatingMode | .queryDeviceLabel | .querySerial | .queryFittingNumber | .queryEan =>
    [.gear, .device]
  | .queryInstances => [.device]
  | .queryGroupLabel | .querySceneNumbersForGroup | .queryGroupByNumber => [.group]
  | .queryLevel | .goToLastActiveLevel => [.gear, .group]
  | .queryGroupMembership | .queryGearType | .queryColourFeatures | .queryColourTempLimits
  | .queryColour | .queryMinLevel | .queryMaxLevel | .queryFadeRunning | .enableDapcSequence
  | .querySceneNumbers | .querySceneLevels | .queryColourSceneMembership
  | .queryColourScenes0To7 | .queryColourScenes8To11 => [.gear]
  | .queryGearStatus | .onStepUp | .stepDownOff | .up | .down | .recallMax | .recallMin | .off
  | .stopFade | .queryLastScene | .queryLastSceneIsCurrent => [.gear, .group, .broadcast]

end AddressOperation

inductive InputOperation where
  | queryInstanceFittingNumber
  | queryInstanceLabel
  | queryInstanceGroups
  | queryOccupancyTimers
  | queryButtonLed
  deriving DecidableEq, Repr

namespace InputOperation

def all : List InputOperation :=
  [.queryInstanceFittingNumber, .queryInstanceLabel, .queryInstanceGroups, .queryOccupancyTimers,
    .queryButtonLed]

def name : InputOperation → String
  | .queryInstanceFittingNumber => "query instance fitting number"
  | .queryInstanceLabel => "query instance label"
  | .queryInstanceGroups => "query instance groups"
  | .queryOccupancyTimers => "query occupancy timers"
  | .queryButtonLed => "query button LED"

def code : InputOperation → UInt8
  | .queryInstanceFittingNumber => 0x23
  | .queryInstanceLabel => 0xB7
  | .queryInstanceGroups => 0x21
  | .queryOccupancyTimers => 0x0C
  | .queryButtonLed => 0x30

end InputOperation

inductive Operation where
  | controller (operation : ControllerOperation)
  | address (operation : AddressOperation) (target : Address)
  | input (operation : InputOperation) (source : Input)
  | setSystemVariable (index : UInt8) (value : Int16)
  | querySystemVariable (index : UInt8)
  | querySystemVariableName (index : UInt8)
  | enableEventEmit (mode : EventMode)
  | addEventFilter (target : Address) (number : Option UInt8) (mask : EventMask)
  | clearEventFilter (target : Address) (number : Option UInt8) (mask : EventMask)
  | queryEventFilters (target : Address) (number : Option UInt8) (startAt : UInt8)
  | setUnicastTarget (endpoint : Option Ipv4Endpoint)
  | querySceneLabelForGroup (group : Address) (scene : UInt8)
  | queryProfileLabel (profile : UInt16)
  | changeProfile (profile : UInt16)
  | returnToScheduledProfile
  | queryAddressesWithInstances (startAt : UInt8)
  | overrideButtonLed (source : Input) (on : Bool)
  | setColour (target : Address) (colour : Colour) (level : Option UInt8)
  | inhibit (target : Address) (seconds : UInt16)
  | arcLevel (target : Address) (level : UInt8)
  | customFade (target : Address) (level : UInt8) (seconds : UInt16)
  | recallScene (target : Address) (scene : UInt8)
  deriving DecidableEq, Repr

def levelRange : Range := ⟨0, 254⟩

/-- The level byte that leaves the level as it is. -/
def levelUnchanged : UInt8 := 0xFF

/-- The instance byte that stands for the whole address. -/
def wholeAddress : UInt8 := 0xFF

/-- The profile that stands for the schedule. -/
def scheduledProfile : UInt16 := 0xFFFF

def sceneRange : Range := ⟨0, maxScene⟩

def listingStartRange : Range := ⟨0, 127⟩

def lightTargets : List TargetClass := [.gear, .group, .broadcast]

def filterTargets : List TargetClass := [.gear, .device, .broadcast]

namespace Operation

/-- The target itself if the operation applies to its class and its number is in range. -/
def checkTarget (name : String) (accepts : List TargetClass) (target : Address) :
    Except WireError Address :=
  match target.class? with
  | some targetClass =>
    if accepts.contains targetClass then target.validate
    else .error (.unsupportedAddress name target)
  | none => .error (.unsupportedAddress name target)

def inputByte : Option UInt8 → Except WireError UInt8
  | some number => do
    (Range.mk 0 maxInstance).check "instance" number.toNat
    return number
  | none => .ok wholeAddress

def levelByte : Option UInt8 → Except WireError UInt8
  | some level => do
    levelRange.check "level" level.toNat
    return level
  | none => .ok levelUnchanged

def basic (name : String) (code : UInt8) (target : Address) (d0 d1 d2 : UInt8) : Command :=
  ⟨name, code, target, .basic target.wireByte d0 d1 d2⟩

def eventFilter (name : String) (code : UInt8) (target : Address) (number : Option UInt8)
    (mask : EventMask) : Except WireError Command := do
  let target ← checkTarget name filterTargets target
  let number ← inputByte number
  return basic name code target number mask.upper mask.lower

/-- The command that sets how events are emitted; the mode takes the place of the address byte. -/
def eventEmission (mode : EventMode) : Command :=
  ⟨"enable event emit", 0x08, .controller, .basic mode.byte 0 0 0⟩

def profileChange (profile : UInt16) : Command :=
  basic "change profile" 0xC0 (.profile profile) 0 (upperByte profile) (lowerByte profile)

/-- The command of an operation, or the first argument that is refused. -/
def command : Operation → Except WireError Command
  | .controller operation => .ok (basic operation.name operation.code .controller 0 0 0)
  | .address operation target => do
    let target ← checkTarget operation.name operation.accepts target
    return basic operation.name operation.code target 0 0 0
  | .input operation source => do
    let source ← source.validate
    return basic operation.name operation.code source.address 0 0 source.number
  | .setSystemVariable index value => do
    let target ← Address.ofSystemVariable index
    return basic "set system variable" 0x36 target 0
      (upperByte value.toUInt16) (lowerByte value.toUInt16)
  | .querySystemVariable index => do
    let target ← Address.ofSystemVariable index
    return basic "query system variable" 0x37 target 0 0 0
  | .querySystemVariableName index => do
    let target ← Address.ofSystemVariable index
    return basic "query system variable name" 0x42 target 0 0 0
  | .enableEventEmit mode => .ok (eventEmission mode)
  | .addEventFilter target number mask => eventFilter "add event filter" 0x31 target number mask
  | .clearEventFilter target number mask =>
    eventFilter "clear event filter" 0x33 target number mask
  | .queryEventFilters target number startAt => do
    let target ← checkTarget "query event filters" filterTargets target
    let number ← inputByte number
    return basic "query event filters" 0x32 target startAt 0 number
  | .setUnicastTarget endpoint =>
    let data := match endpoint with
      | some endpoint => endpoint.bytes
      | none => List.replicate 6 0
    .ok ⟨"set unicast target", 0x40, .controller, .dynamic data⟩
  | .querySceneLabelForGroup group scene => do
    let target ← checkTarget "query scene label for group" [.group] group
    sceneRange.check "scene" scene.toNat
    return basic "query scene label for group" 0x1B target scene 0 0
  | .queryProfileLabel profile =>
    .ok (basic "query profile label" 0x04 (.profile profile) 0 (upperByte profile)
      (lowerByte profile))
  | .changeProfile profile => .ok (profileChange profile)
  | .returnToScheduledProfile => .ok (profileChange scheduledProfile)
  | .queryAddressesWithInstances startAt => do
    listingStartRange.check "start address" startAt.toNat
    return basic "query addresses with instances" 0x16 .controller 0 0 startAt
  | .overrideButtonLed source on => do
    let source ← source.validate
    return basic "override button LED" 0x29 source.address 0 (if on then 2 else 1) source.number
  | .setColour target colour level => do
    let target ← checkTarget "set colour" lightTargets target
    colour.validate
    let level ← levelByte level
    return ⟨"set colour", 0x0E, target, .colour target.wireByte level colour⟩
  | .inhibit target seconds => do
    let target ← checkTarget "inhibit" lightTargets target
    return basic "inhibit" 0xA0 target 0 (upperByte seconds) (lowerByte seconds)
  | .arcLevel target level => do
    let target ← checkTarget "arc level" lightTargets target
    levelRange.check "level" level.toNat
    return basic "arc level" 0xA2 target 0 0 level
  | .customFade target level seconds => do
    let target ← checkTarget "custom fade" [.gear, .group] target
    levelRange.check "level" level.toNat
    return basic "custom fade" 0xB4 target level (upperByte seconds) (lowerByte seconds)
  | .recallScene target scene => do
    let target ← checkTarget "recall scene" lightTargets target
    sceneRange.check "scene" scene.toNat
    return basic "recall scene" 0xA1 target 0 0 scene

end Operation

end LightingControl
