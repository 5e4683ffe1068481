import Mathlib.Data.List.Basic

/-! # What the device says of itself

The package `device_info` is asked twice: `getMobileId` asks the side of the platform
for the id, and a confirmed form asks for the name, always on the side of iOS. A
`PlatformException` is caught by `getMobileId` and gives the empty id, any other
exception goes through, and a platform that is neither of the two is not asked at all.
-/

namespace Edutopik.Otp

inductive Platform where
  | android
  | iOS
  | other
  deriving DecidableEq, Repr

/-- How awaiting `androidInfo` or `iosInfo` ends. -/
inductive Info (α : Type) where
  | given (data : α)
  | platformException
  | raised

structure AndroidDeviceInfo where
  androidId : String

structure IosDeviceInfo where
  name : String
  identifierForVendor : String

def Info.data? {α : Type} : Info α → Option α
  | .given data => some data
  | .platformException | .raised => none

/-- `read` of the data, where asking raises nothing but a `PlatformException`. -/
def Info.caught {α : Type} (read : α → String) : Info α → Option String
  | .given data => some (read data)
  | .platformException => some ""
  | .raised => none

/-- The package on a device. Its Android side has no call for `iosInfo`. -/
structure DeviceInfoPlugin where
  platform : Platform
  androidInfo : Info AndroidDeviceInfo
  iosInfo : Info IosDeviceInfo
  onlyIos : platform = .android → iosInfo.data? = none

/-- `getMobileId`, with an exception that goes through as `none`. -/
def getMobileId (deviceInfoPlugin : DeviceInfoPlugin) : Option String :=
  match deviceInfoPlugin.platform with
  | .android => deviceInfoPlugin.androidInfo.caught AndroidDeviceInfo.androidId
  | .iOS => deviceInfoPlugin.iosInfo.caught IosDeviceInfo.identifierForVendor
  | .other => some ""

/-- `(await deviceInfo.iosInfo).name`. -/
def DeviceInfoPlugin.deviceName (deviceInfo : DeviceInfoPlugin) : Option String :=
  deviceInfo.iosInfo.data?.map IosDeviceInfo.name

theorem DeviceInfoPlugin.deviceName_isSome (deviceInfo : DeviceInfoPlugin) :
    deviceInfo.deviceName.isSome = deviceInfo.iosInfo.data?.isSome := by
  rw [deviceName, Option.isSome_map]

theorem DeviceInfoPlugin.deviceName_android {deviceInfo : DeviceInfoPlugin}
    (android : deviceInfo.platform = .android) : deviceInfo.deviceName = none := by
  rw [deviceName, deviceInfo.onlyIos android, Option.map_none]

/-! ## The id of a phone -/

/-- A device, with the id its package gives whenever it gives any. -/
structure Phone where
  platform : Platform
  androidId : String
  identifierForVendor : String

namespace Phone

/-- The package speaks for this device, where it says anything. -/
structure Has (phone : Phone) (plugin : DeviceInfoPlugin) : Prop where
  platform : plugin.platform = phone.platform
  android : ∀ data, plugin.androidInfo = .given data → data.androidId = phone.androidId
  iOS : ∀ data, plugin.iosInfo = .given data → data.identifierForVendor = phone.identifierForVendor

/-- What a call of `getMobileId` may bring on this device. -/
def Brings (phone : Phone) (id : String) : Prop :=
  ∃ plugin, phone.Has plugin ∧ getMobileId plugin = some id

/-- The id the device has. -/
def id (phone : Phone) : String :=
  match phone.platform with
  | .android => phone.androidId
  | .iOS => phone.identifierForVendor
  | .other => ""

theorem caught_of_data {α : Type} {read : α → String} {text id : String} {info : Info α}
    (own : ∀ data, info = .given data → read data = text) (caught : info.caught read = some id) :
    id = text ∨ id = "" := by
  cases info with
  | given data =>
      have same : read data = id := Option.some.inj caught
      exact .inl (same ▸ own data rfl)
  | platformException => exact .inr (Option.some.inj caught).symm
  | raised => cases caught

/-- The package as it answers when all goes well. -/
def plugin (phone : Phone) : DeviceInfoPlugin where
  platform := phone.platform
  androidInfo := .given ⟨phone.androidId⟩
  iosInfo :=
    match phone.platform with
    | .android => .raised
    | _ => .given ⟨"", phone.identifierForVendor⟩
  onlyIos := by
    intro android
    simp [android, Info.data?]

theorem has_plugin (phone : Phone) : phone.Has phone.plugin where
  platform := rfl
  android := by
    intro data same
    cases same
    rfl
  iOS := by
    intro data same
    simp only [plugin] at same
    split at same
    · cases same
    · cases same
      rfl

/-- The package as it answers when both calls fail. -/
theorem brings_empty (phone : Phone) : phone.Brings "" := by
  refine ⟨⟨phone.platform, .platformException, .platformException, fun _ => rfl⟩, ⟨rfl, nofun, nofun⟩, ?_⟩
  unfold getMobileId
  cases phone.platform <;> rfl

/-- A device goes by its own id and by the empty one. -/
theorem brings_iff {phone : Phone} {id : String} : phone.Brings id ↔ id = phone.id ∨ id = "" := by
  constructor
  · intro brings
    obtain ⟨plugin, has, brought⟩ := brings
    unfold Phone.id
    cases platform : phone.platform with
    | android =>
        simp only [getMobileId, has.platform, platform] at brought
        exact caught_of_data has.android brought
    | iOS =>
        simp only [getMobileId, has.platform, platform] at brought
        exact caught_of_data has.iOS brought
    | other =>
        simp only [getMobileId, has.platform, platform] at brought
        exact .inr (Option.some.inj brought).symm
  · intro named
    rcases named with rfl | rfl
    · refine ⟨phone.plugin, phone.has_plugin, ?_⟩
      obtain ⟨platform, androidId, identifierForVendor⟩ := phone
      cases platform <;> rfl
    · exact phone.brings_empty

end Phone

end Edutopik.Otp
