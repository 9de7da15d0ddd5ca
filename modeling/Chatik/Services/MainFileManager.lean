import Chatik.Firestore.Documents
import Mathlib.Logic.Function.Basic
import Mathlib.Tactic.Common

/-!
# The profile file

`MainFileManager` writes the whole profile to `userProfile.json` and reads it
back.  A `Device` is what it uses of Foundation and UIKit: the documents
directory, the text and image codecs, the JSON coder of `[String: Data]` and the
system symbols.  Files are the contents under each path.  `createFile` reports
its success as a value that the program ignores; here it is an argument.
-/

namespace Chatik

structure UserProfile (Image : Type) where
  userName : String
  userInfo : String
  userProfileImage : Image

structure Device (Image Data : Type) where
  documentDirectory : Option String
  systemImage : String → Option Image
  utf8Data : String → Option Data
  utf8String : Data → Option String
  pngData : Image → Option Data
  image : Data → Option Image
  encode : Dictionary Data → Option Data
  decode : Data → Option (Dictionary Data)

abbrev Files (Data : Type) := Dictionary Data

variable {Image Data : Type}

def createFile (created : Bool) (files : Files Data) (path : String)
    (contents : Data) : Files Data :=
  if created then Function.update files path (some contents) else files

namespace MainFileManager

def nameKey : String := "name"
def infoKey : String := "info"
def imageKey : String := "image"

def savingFileURL (device : Device Image Data) : Option String :=
  device.documentDirectory.map (· ++ "/userProfile.json")

def profileDictionary (nameData infoData imageData : Data) : Dictionary Data :=
  fun key =>
    if key = nameKey then some nameData
    else if key = infoKey then some infoData
    else if key = imageKey then some imageData
    else none

def savingData (device : Device Image Data) (profile : UserProfile Image) :
    Option (Dictionary Data) := do
  let nameData ← device.utf8Data profile.userName
  let infoData ← device.utf8Data profile.userInfo
  let imageData ← device.pngData profile.userProfileImage
  some (profileDictionary nameData infoData imageData)

def saveUserProfile (device : Device Image Data) (created : Bool)
    (files : Files Data) (profile : UserProfile Image) : Files Data :=
  let saved := do
    let url ← savingFileURL device
    let dictionary ← savingData device profile
    let encodedData ← device.encode dictionary
    some (createFile created files url encodedData)
  saved.getD files

/-- The dictionary in the file, as `loadUserProfile` reads it. -/
def storedDictionary (device : Device Image Data) (files : Files Data) :
    Option (Dictionary Data) := do
  let url ← savingFileURL device
  let savedData ← files url
  device.decode savedData

def loadUserProfile (device : Device Image Data) (files : Files Data) :
    Option (UserProfile Image) := do
  let decodedData ← storedDictionary device files
  let imageData ← decodedData imageKey
  let nameData ← decodedData nameKey
  let infoData ← decodedData infoKey
  let name ← device.utf8String nameData
  let info ← device.utf8String infoData
  let image ← device.image imageData
  some ⟨name, info, image⟩

end MainFileManager

/-! ## A device on which saving works

Every text has UTF-8 data, the profile dictionary survives the JSON coder, and
the person symbol exists and has PNG data.
-/

structure Device.Healthy (device : Device Image Data) : Prop where
  directory : device.documentDirectory.isSome
  text : ∀ text, ∃ data, device.utf8Data text = some data ∧
    device.utf8String data = some text
  json : ∀ nameData infoData imageData, ∃ data,
    device.encode (MainFileManager.profileDictionary nameData infoData imageData) =
        some data ∧
      device.decode data =
        some (MainFileManager.profileDictionary nameData infoData imageData)
  symbol : ∃ image data, device.systemImage "person.fill" = some image ∧
    device.pngData image = some data

/-- The codecs give back what they encode. -/
structure Device.InverseCodecs (device : Device Image Data) : Prop where
  text : ∀ text data, device.utf8Data text = some data →
    device.utf8String data = some text
  image : ∀ image data, device.pngData image = some data →
    device.image data = some image
  json : ∀ nameData infoData imageData data,
    device.encode (MainFileManager.profileDictionary nameData infoData imageData) =
        some data →
      device.decode data =
        some (MainFileManager.profileDictionary nameData infoData imageData)

namespace MainFileManager

/-- The file holds the name, the info and the image of the profile. -/
def Holds (device : Device Image Data) (files : Files Data)
    (profile : UserProfile Image) : Prop :=
  ∃ dictionary, storedDictionary device files = some dictionary ∧
    savingData device profile = some dictionary

def storedField (device : Device Image Data) (files : Files Data) (key : String) :
    Option Data :=
  (storedDictionary device files).bind (· key)

theorem savingData_eq_some {device : Device Image Data} {profile : UserProfile Image}
    {dictionary : Dictionary Data} :
    savingData device profile = some dictionary ↔
      ∃ nameData infoData imageData,
        device.utf8Data profile.userName = some nameData ∧
        device.utf8Data profile.userInfo = some infoData ∧
        device.pngData profile.userProfileImage = some imageData ∧
        dictionary = profileDictionary nameData infoData imageData := by
  simp only [savingData, Option.bind_eq_bind, Option.bind_eq_some_iff,
    Option.some.injEq]
  constructor
  · rintro ⟨name, hname, info, hinfo, image, himage, rfl⟩
    exact ⟨name, info, image, hname, hinfo, himage, rfl⟩
  · rintro ⟨name, info, image, hname, hinfo, himage, rfl⟩
    exact ⟨name, hname, info, hinfo, image, himage, rfl⟩

theorem savingData_of_pngData {device : Device Image Data} (h : device.Healthy)
    {profile : UserProfile Image} {imageData : Data}
    (himage : device.pngData profile.userProfileImage = some imageData) :
    ∃ dictionary, savingData device profile = some dictionary := by
  obtain ⟨nameData, hname, -⟩ := h.text profile.userName
  obtain ⟨infoData, hinfo, -⟩ := h.text profile.userInfo
  exact ⟨_, savingData_eq_some.mpr
    ⟨nameData, infoData, imageData, hname, hinfo, himage, rfl⟩⟩

/-- Each key of the dictionary depends on one field of the profile. -/
theorem savingData_fields {device : Device Image Data} {profile : UserProfile Image}
    {dictionary : Dictionary Data} (h : savingData device profile = some dictionary) :
    dictionary nameKey = device.utf8Data profile.userName ∧
      dictionary infoKey = device.utf8Data profile.userInfo ∧
      dictionary imageKey = device.pngData profile.userProfileImage := by
  obtain ⟨nameData, infoData, imageData, hname, hinfo, himage, rfl⟩ :=
    savingData_eq_some.mp h
  simp [profileDictionary, nameKey, infoKey, imageKey, hname, hinfo, himage]

/-- A save whose steps all succeed leaves its own dictionary in the file. -/
theorem storedDictionary_saveUserProfile {device : Device Image Data}
    (h : device.Healthy) (files : Files Data) {profile : UserProfile Image}
    {dictionary : Dictionary Data}
    (hsaving : savingData device profile = some dictionary) :
    storedDictionary device (saveUserProfile device true files profile) =
      some dictionary := by
  obtain ⟨directory, hdirectory⟩ := Option.isSome_iff_exists.mp h.directory
  have hurl : savingFileURL device = some (directory ++ "/userProfile.json") := by
    simp [savingFileURL, hdirectory]
  obtain ⟨nameData, infoData, imageData, -, -, -, rfl⟩ := savingData_eq_some.mp hsaving
  obtain ⟨data, hencode, hdecode⟩ := h.json nameData infoData imageData
  simp [saveUserProfile, storedDictionary, createFile, hurl, hsaving, hencode, hdecode]

theorem holds_saveUserProfile {device : Device Image Data} (h : device.Healthy)
    (files : Files Data) {profile : UserProfile Image} {imageData : Data}
    (himage : device.pngData profile.userProfileImage = some imageData) :
    Holds device (saveUserProfile device true files profile) profile := by
  obtain ⟨dictionary, hsaving⟩ := savingData_of_pngData h himage
  exact ⟨dictionary, storedDictionary_saveUserProfile h files hsaving, hsaving⟩

/-- A file that holds a profile is loaded as that profile. -/
theorem loadUserProfile_of_holds {device : Device Image Data}
    (hcodecs : device.InverseCodecs) {files : Files Data} {profile : UserProfile Image}
    (h : Holds device files profile) : loadUserProfile device files = some profile := by
  obtain ⟨dictionary, hstored, hsaving⟩ := h
  obtain ⟨hname, hinfo, himage⟩ := savingData_fields hsaving
  obtain ⟨nameData, infoData, imageData, hnameData, hinfoData, himageData, -⟩ :=
    savingData_eq_some.mp hsaving
  rw [hnameData] at hname
  rw [hinfoData] at hinfo
  rw [himageData] at himage
  simp [loadUserProfile, hstored, hname, hinfo, himage,
    hcodecs.text _ _ hnameData, hcodecs.text _ _ hinfoData, hcodecs.image _ _ himageData]

theorem storedField_of_holds {device : Device Image Data} {files : Files Data}
    {profile : UserProfile Image} (h : Holds device files profile) (key : String) :
    storedField device files key = (savingData device profile).bind (· key) := by
  obtain ⟨dictionary, hstored, hsaving⟩ := h
  rw [storedField, hstored, hsaving]

theorem holds_congr {device : Device Image Data} {files : Files Data}
    {saved profile : UserProfile Image} (hsaved : Holds device files saved) :
    Holds device files profile ↔
      savingData device profile = savingData device saved := by
  obtain ⟨dictionary, hstored, hsaving⟩ := hsaved
  rw [hsaving]
  constructor
  · rintro ⟨other, hother, hprofile⟩
    rw [hprofile, ← hother, hstored]
  · intro hprofile
    exact ⟨dictionary, hstored, hprofile⟩

/-! ## A save that succeeds and a save that fails -/

/-- Every step of a save of the profile succeeds. -/
structure SaveSucceeds (device : Device Image Data) (created : Bool)
    (profile : UserProfile Image) : Prop where
  directory : device.documentDirectory.isSome
  name : (device.utf8Data profile.userName).isSome
  info : (device.utf8Data profile.userInfo).isSome
  image : (device.pngData profile.userProfileImage).isSome
  json : ∀ dictionary ∈ savingData device profile, (device.encode dictionary).isSome
  created : created = true

theorem saveSucceeds_iff {device : Device Image Data} {created : Bool}
    {profile : UserProfile Image} :
    SaveSucceeds device created profile ↔
      ∃ url dictionary data, savingFileURL device = some url ∧
        savingData device profile = some dictionary ∧
        device.encode dictionary = some data ∧ created = true := by
  constructor
  · rintro ⟨hdirectory, hname, hinfo, himage, hjson, hcreated⟩
    obtain ⟨directory, hdirectory⟩ := Option.isSome_iff_exists.mp hdirectory
    obtain ⟨nameData, hname⟩ := Option.isSome_iff_exists.mp hname
    obtain ⟨infoData, hinfo⟩ := Option.isSome_iff_exists.mp hinfo
    obtain ⟨imageData, himage⟩ := Option.isSome_iff_exists.mp himage
    have hsaving := savingData_eq_some.mpr
      ⟨nameData, infoData, imageData, hname, hinfo, himage, rfl⟩
    obtain ⟨data, hencode⟩ := Option.isSome_iff_exists.mp (hjson _ hsaving)
    exact ⟨_, _, data, by rw [savingFileURL, hdirectory]; rfl, hsaving, hencode, hcreated⟩
  · rintro ⟨url, dictionary, data, hurl, hsaving, hencode, hcreated⟩
    obtain ⟨directory, hdirectory, -⟩ := Option.map_eq_some_iff.mp hurl
    obtain ⟨nameData, infoData, imageData, hname, hinfo, himage, -⟩ :=
      savingData_eq_some.mp hsaving
    refine ⟨by simp [hdirectory], by simp [hname], by simp [hinfo], by simp [himage], ?_,
      hcreated⟩
    intro other hother
    obtain rfl := Option.some.inj (hsaving.symm.trans hother)
    simp [hencode]

/-- The save comes to `createFile`, and that succeeds. -/
def writes (device : Device Image Data) (created : Bool) (profile : UserProfile Image) :
    Bool :=
  created && (do
    let _ ← savingFileURL device
    let dictionary ← savingData device profile
    device.encode dictionary).isSome

theorem writes_iff {device : Device Image Data} {created : Bool}
    {profile : UserProfile Image} :
    writes device created profile = true ↔ SaveSucceeds device created profile := by
  rw [saveSucceeds_iff]
  simp only [writes, Bool.and_eq_true, Option.isSome_iff_exists, Option.bind_eq_bind,
    Option.bind_eq_some_iff]
  constructor
  · rintro ⟨hcreated, data, url, hurl, dictionary, hsaving, hencode⟩
    exact ⟨url, dictionary, data, hurl, hsaving, hencode, hcreated⟩
  · rintro ⟨url, dictionary, data, hurl, hsaving, hencode, hcreated⟩
    exact ⟨hcreated, data, url, hurl, dictionary, hsaving, hencode⟩

/-- A save that fails at some step leaves the files as they are. -/
theorem saveUserProfile_of_not_succeeds {device : Device Image Data} {created : Bool}
    {profile : UserProfile Image} (h : ¬ SaveSucceeds device created profile)
    (files : Files Data) : saveUserProfile device created files profile = files := by
  rw [saveSucceeds_iff] at h
  unfold saveUserProfile
  cases hurl : savingFileURL device with
  | none => rfl
  | some url =>
      cases hsaving : savingData device profile with
      | none => rfl
      | some dictionary =>
          cases hencode : device.encode dictionary with
          | none => simp [hencode]
          | some data =>
              cases created with
              | false => simp [hencode, createFile]
              | true => exact absurd ⟨url, dictionary, data, hurl, hsaving, hencode, rfl⟩ h

theorem holds_of_succeeds {device : Device Image Data} (hcodecs : device.InverseCodecs)
    {created : Bool} {profile : UserProfile Image}
    (h : SaveSucceeds device created profile) (files : Files Data) :
    Holds device (saveUserProfile device created files profile) profile := by
  obtain ⟨url, dictionary, data, hurl, hsaving, hencode, rfl⟩ := saveSucceeds_iff.mp h
  refine ⟨dictionary, ?_, hsaving⟩
  obtain ⟨nameData, infoData, imageData, -, -, -, rfl⟩ := savingData_eq_some.mp hsaving
  have hdecode := hcodecs.json _ _ _ _ hencode
  simp [saveUserProfile, storedDictionary, createFile, hurl, hsaving, hencode, hdecode]

theorem holds_saveUserProfile_iff {device : Device Image Data}
    (hcodecs : device.InverseCodecs) {created : Bool} {files : Files Data}
    {profile : UserProfile Image} :
    Holds device (saveUserProfile device created files profile) profile ↔
      SaveSucceeds device created profile ∨ Holds device files profile := by
  by_cases h : SaveSucceeds device created profile
  · exact iff_of_true (holds_of_succeeds hcodecs h files) (Or.inl h)
  · rw [saveUserProfile_of_not_succeeds h, or_iff_right h]

/-- All three parts of a profile are decoded from the content, each from the value
under its own key. -/
def DecodedFrom (device : Device Image Data) (content : Data)
    (profile : UserProfile Image) : Prop :=
  ∃ dictionary nameData infoData imageData,
    device.decode content = some dictionary ∧
    dictionary nameKey = some nameData ∧
    dictionary infoKey = some infoData ∧
    dictionary imageKey = some imageData ∧
    device.utf8String nameData = some profile.userName ∧
    device.utf8String infoData = some profile.userInfo ∧
    device.image imageData = some profile.userProfileImage

theorem loadUserProfile_eq_some {device : Device Image Data} {files : Files Data}
    {profile : UserProfile Image} :
    loadUserProfile device files = some profile ↔
      ∃ url content, savingFileURL device = some url ∧ files url = some content ∧
        DecodedFrom device content profile := by
  simp only [loadUserProfile, storedDictionary, DecodedFrom, Option.bind_eq_bind,
    Option.bind_eq_some_iff, Option.some.injEq]
  constructor
  · rintro ⟨dictionary, ⟨url, hurl, content, hcontent, hdecode⟩, imageData, himageData,
      nameData, hnameData, infoData, hinfoData, name, hname, info, hinfo, image, himage,
      rfl⟩
    exact ⟨url, content, hurl, hcontent, dictionary, nameData, infoData, imageData,
      hdecode, hnameData, hinfoData, himageData, hname, hinfo, himage⟩
  · rintro ⟨url, content, hurl, hcontent, dictionary, nameData, infoData, imageData,
      hdecode, hnameData, hinfoData, himageData, hname, hinfo, himage⟩
    exact ⟨dictionary, ⟨url, hurl, content, hcontent, hdecode⟩, imageData, himageData,
      nameData, hnameData, infoData, hinfoData, _, hname, _, hinfo, _, himage, rfl⟩

/-- A successful save is read back as it was, a failed one changes nothing that is
read, and whatever is read was decoded from the file. -/
theorem loadUserProfile_saveUserProfile {device : Device Image Data}
    (hcodecs : device.InverseCodecs) (created : Bool) (files : Files Data)
    (profile : UserProfile Image) :
    (SaveSucceeds device created profile →
      loadUserProfile device (saveUserProfile device created files profile) =
        some profile) ∧
    (¬ SaveSucceeds device created profile →
      loadUserProfile device (saveUserProfile device created files profile) =
        loadUserProfile device files) ∧
    ∀ loaded, loadUserProfile device files = some loaded →
      ∃ url content, savingFileURL device = some url ∧ files url = some content ∧
        DecodedFrom device content loaded := by
  refine ⟨fun hsucceeds => ?_, fun hfails => ?_, fun loaded hloaded => ?_⟩
  · exact loadUserProfile_of_holds hcodecs (holds_of_succeeds hcodecs hsucceeds files)
  · rw [saveUserProfile_of_not_succeeds hfails]
  · exact loadUserProfile_eq_some.mp hloaded

end MainFileManager

/-! ## A concrete device

Images are the system symbols, by their names.
-/

inductive FileData where
  | utf8 (text : String)
  | png (symbol : String)
  | json (nameData infoData imageData : FileData)
  deriving DecidableEq

def phone : Device String FileData where
  documentDirectory := some "/Documents"
  systemImage := some
  utf8Data := fun text => some (.utf8 text)
  utf8String := fun
    | .utf8 text => some text
    | _ => none
  pngData := fun symbol => some (.png symbol)
  image := fun
    | .png symbol => some symbol
    | _ => none
  encode := fun dictionary => do
    let nameData ← dictionary "name"
    let infoData ← dictionary "info"
    let imageData ← dictionary "image"
    some (.json nameData infoData imageData)
  decode := fun
    | .json nameData infoData imageData =>
        some (MainFileManager.profileDictionary nameData infoData imageData)
    | _ => none

def noFiles : Files FileData := fun _ => none

theorem phone_healthy : phone.Healthy where
  directory := rfl
  text := fun text => ⟨.utf8 text, rfl, rfl⟩
  json := fun nameData infoData imageData => ⟨.json nameData infoData imageData, rfl, rfl⟩
  symbol := ⟨"person.fill", .png "person.fill", rfl, rfl⟩

theorem phone_inverseCodecs : phone.InverseCodecs where
  text := fun text data h => by
    obtain rfl := Option.some.inj h
    rfl
  image := fun image data h => by
    obtain rfl := Option.some.inj h
    rfl
  json := fun nameData infoData imageData data h => by
    obtain rfl := Option.some.inj h
    rfl

theorem loadUserProfile_saveUserProfile_phone :
    MainFileManager.loadUserProfile phone (MainFileManager.saveUserProfile phone true
        (fun _ => none) ⟨"Vlad", "iOS", "person.fill"⟩) =
      some ⟨"Vlad", "iOS", "person.fill"⟩ := by
  refine (MainFileManager.loadUserProfile_saveUserProfile phone_inverseCodecs true _ _).1
    ⟨rfl, rfl, rfl, rfl, fun dictionary hdictionary => ?_, rfl⟩
  obtain rfl := Option.some.inj hdictionary
  rfl

end Chatik
