import FlipperMcp.Link
import FlipperMcp.Python.Text

/-! # The firmware a device reports

`classify` reads a `device_info` dictionary: the firmware's distribution, its version
and the hardware target.
-/

namespace FlipperMcp

/-- `FirmwareFlavor`. -/
inductive FirmwareFlavor
  | official
  | momentum
  | unleashed
  | roguemaster
  | unknown
  deriving DecidableEq

/-- `FirmwareFlavor.value`. -/
def FirmwareFlavor.value : FirmwareFlavor → String
  | official => "official"
  | momentum => "momentum"
  | unleashed => "unleashed"
  | roguemaster => "roguemaster"
  | unknown => "unknown"

/-- `FirmwareInfo`. -/
structure FirmwareInfo where
  flavor : FirmwareFlavor
  version : Option String
  originFork : Option String
  originGit : Option String
  target : Option String
  deriving DecidableEq

namespace Firmware

/-- `_GIT_MARKERS`. -/
def gitMarkers : List (String × FirmwareFlavor) :=
  [("next-flip/momentum", .momentum), ("darkflippers/unleashed", .unleashed),
    ("roguemaster/", .roguemaster), ("flipperdevices/flipperzero-firmware", .official)]

/-- `_FORK_MARKERS`. -/
def forkMarkers : List (String × FirmwareFlavor) :=
  [("momentum", .momentum), ("unleashed", .unleashed), ("roguemaster", .roguemaster),
    ("official", .official)]

/-- `_flavor_from(origin_git, origin_fork)`: a marker in the git URL decides before the
name of the fork does. -/
def flavorFrom (originGit originFork : Option String) : FirmwareFlavor :=
  let git := Python.lower (originGit.getD "")
  let fork := Python.lower (Python.strip (originFork.getD ""))
  match gitMarkers.find? fun marker => Python.contains marker.1 git with
  | some (_, flavor) => flavor
  | none => (forkMarkers.lookup fork).getD .unknown

/-- `_target_from(hardware_target)`. -/
def targetFrom (hardwareTarget : Option String) : Option String :=
  (Python.truthy hardwareTarget).map fun target => "f" ++ Python.strip target

/-- `classify(device_info)`. -/
def classify (deviceInfo : Dict) : FirmwareInfo where
  flavor := flavorFrom (deviceInfo.lookup "firmware_origin_git")
    (deviceInfo.lookup "firmware_origin_fork")
  version := deviceInfo.lookup "firmware_version"
  originFork := deviceInfo.lookup "firmware_origin_fork"
  originGit := deviceInfo.lookup "firmware_origin_git"
  target := targetFrom (deviceInfo.lookup "hardware_target")

end Firmware

end FlipperMcp
