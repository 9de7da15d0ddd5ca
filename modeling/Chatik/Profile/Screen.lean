import Chatik.Profile.TextInput
import Chatik.Services.MainFileManager

/-!
# The profile screen

`ProfileViewController` with its outlets, buffers and handlers.  `viewDidLoad`
starts from the storyboard scene: both text fields empty and disabled, the
buttons Edit and image-edit visible, Cancel and the two Save buttons hidden, the
Save buttons disabled, no image in `profileImageView`.  `viewDidLoad` gives each
text field the tag of its type, and nothing changes the tags afterwards.
-/

namespace Chatik

structure Button where
  isHidden : Bool
  isEnabled : Bool
  deriving DecidableEq

structure TextField where
  text : String
  isEnabled : Bool
  deriving DecidableEq

structure ActivityIndicator where
  isHidden : Bool
  isAnimating : Bool
  deriving DecidableEq

structure ProfileViewController (Image : Type) where
  profileImageView : Option Image
  defaultProfileImageView : Option Image
  userNameTextField : TextField
  userInfoTextField : TextField
  editButton : Button
  editProfileImageButton : Button
  cancelButton : Button
  saveGSDButton : Button
  saveOperationButton : Button
  userNameBuffer : String
  userInfoBuffer : String
  activityIndicator : ActivityIndicator

inductive TextFieldType where
  | userName
  | userInfo
  deriving DecidableEq

namespace TextFieldType

def rawValue : TextFieldType → Int
  | .userName => 0
  | .userInfo => 1

def other : TextFieldType → TextFieldType
  | .userName => .userInfo
  | .userInfo => .userName

def ofRawValue? (value : Int) : Option TextFieldType :=
  if value = 0 then some .userName
  else if value = 1 then some .userInfo
  else none

@[simp] theorem ofRawValue?_rawValue (textField : TextFieldType) :
    ofRawValue? textField.rawValue = some textField := by
  cases textField <;> rfl

end TextFieldType

inductive SaveButton where
  | saveGSDButton
  | saveOperationButton
  deriving DecidableEq

def UserProfile.text {Image : Type} (profile : UserProfile Image) :
    TextFieldType → String
  | .userName => profile.userName
  | .userInfo => profile.userInfo

/-- What the user does on the screen, the two Save buttons apart. -/
inductive UserEvent (Image : Type) where
  | editProfilePressed
  | cancelButtonPressed
  | changeCharacters (textField : TextFieldType) (range : NSRange) (string : String)
  | finishPicking (editedImage : Option Image)

variable {Image Data : Type}

/-- A button that is hidden or disabled receives no taps. -/
def Button.isTappable (button : Button) : Bool := !button.isHidden && button.isEnabled

namespace ProfileViewController

def viewDidLoad (device : Device Image Data) : ProfileViewController Image where
  profileImageView := none
  defaultProfileImageView := device.systemImage "person.fill"
  userNameTextField := ⟨"", false⟩
  userInfoTextField := ⟨"", false⟩
  editButton := ⟨false, true⟩
  editProfileImageButton := ⟨false, true⟩
  cancelButton := ⟨true, true⟩
  saveGSDButton := ⟨true, false⟩
  saveOperationButton := ⟨true, false⟩
  userNameBuffer := ""
  userInfoBuffer := ""
  activityIndicator := ⟨true, false⟩

def userImage (device : Device Image Data) (s : ProfileViewController Image) :
    Option Image :=
  s.profileImageView.or (device.systemImage "person.fill")

/-! ## Saving -/

def saveButtonTapped (s : ProfileViewController Image) : ProfileViewController Image :=
  { s with
    saveGSDButton := { s.saveGSDButton with isEnabled := false }
    saveOperationButton := { s.saveOperationButton with isEnabled := false } }

def saveFinishElementState (s : ProfileViewController Image) :
    ProfileViewController Image :=
  { s with
    editButton := { s.editButton with isHidden := false }
    saveGSDButton := { s.saveGSDButton with isHidden := true }
    saveOperationButton := { s.saveOperationButton with isHidden := true }
    cancelButton := { s.cancelButton with isHidden := true }
    userNameTextField := { s.userNameTextField with isEnabled := false }
    userInfoTextField := { s.userInfoTextField with isEnabled := false } }

def startActivityIndicator (s : ProfileViewController Image) :
    ProfileViewController Image :=
  { s with activityIndicator := ⟨false, true⟩ }

def stopActivityIndicator (s : ProfileViewController Image) :
    ProfileViewController Image :=
  { s with activityIndicator := ⟨false, false⟩ }

/-- What both handlers of the Save buttons do before they hand the profile on. -/
def saveTapped (device : Device Image Data) (s : ProfileViewController Image) :
    ProfileViewController Image × Option (UserProfile Image) :=
  let s := s.saveButtonTapped
  match s.userImage device with
  | none => (s, none)
  | some userImage =>
      (s.startActivityIndicator, some ⟨s.userNameBuffer, s.userInfoBuffer, userImage⟩)

/-- The completion that both handlers pass on. -/
def saveCompleted (s : ProfileViewController Image) : ProfileViewController Image :=
  s.stopActivityIndicator.saveFinishElementState

def saveButton (s : ProfileViewController Image) : SaveButton → Button
  | .saveGSDButton => s.saveGSDButton
  | .saveOperationButton => s.saveOperationButton

/-! ## Editing -/

def editProfilePressed (s : ProfileViewController Image) :
    ProfileViewController Image :=
  { s with
    editButton := { s.editButton with isHidden := true }
    editProfileImageButton := { s.editProfileImageButton with isHidden := true }
    saveGSDButton := ⟨false, false⟩
    saveOperationButton := ⟨false, false⟩
    cancelButton := { s.cancelButton with isHidden := false }
    userNameTextField := { s.userNameTextField with isEnabled := true }
    userInfoTextField := { s.userInfoTextField with isEnabled := true } }

def cancelButtonPressed (s : ProfileViewController Image) :
    ProfileViewController Image :=
  { s with
    editButton := { s.editButton with isHidden := false }
    saveGSDButton := { s.saveGSDButton with isHidden := true }
    saveOperationButton := { s.saveOperationButton with isHidden := true }
    cancelButton := { s.cancelButton with isHidden := true }
    userNameTextField := { s.userNameTextField with isEnabled := false }
    userInfoTextField := { s.userInfoTextField with isEnabled := false } }

def textField (s : ProfileViewController Image) : TextFieldType → TextField
  | .userName => s.userNameTextField
  | .userInfo => s.userInfoTextField

def buffer (s : ProfileViewController Image) : TextFieldType → String
  | .userName => s.userNameBuffer
  | .userInfo => s.userInfoBuffer

def setBuffer (s : ProfileViewController Image) (field : TextFieldType)
    (text : String) : ProfileViewController Image :=
  match field with
  | .userName => { s with userNameBuffer := text }
  | .userInfo => { s with userInfoBuffer := text }

/-- The user can type into a field. -/
def isEditing (s : ProfileViewController Image) : Bool :=
  s.userNameTextField.isEnabled || s.userInfoTextField.isEnabled

def setText (s : ProfileViewController Image) (field : TextFieldType)
    (text : String) : ProfileViewController Image :=
  match field with
  | .userName => { s with userNameTextField := { s.userNameTextField with text := text } }
  | .userInfo => { s with userInfoTextField := { s.userInfoTextField with text := text } }

def setSavingEnabled (s : ProfileViewController Image) (isSavingEnabled : Bool) :
    ProfileViewController Image :=
  { s with
    saveGSDButton := { s.saveGSDButton with isEnabled := isSavingEnabled }
    saveOperationButton := { s.saveOperationButton with isEnabled := isSavingEnabled } }

def shouldChangeCharactersIn [Unicode] (s : ProfileViewController Image)
    (field : TextFieldType) (range : NSRange) (string : String) :
    ProfileViewController Image × Bool :=
  let textFieldType := TextFieldType.ofRawValue? field.rawValue
  let text := (s.textField field).text
  match characterRange? text range with
  -- the edit is allowed, and the buffer keeps the text from before it
  | none => (s, true)
  | some textRange =>
      let newText := replacingCharacters text textRange string
      match textFieldType with
      | some .userName =>
          let isSavingEnabled := !sameText newText s.userNameBuffer ||
            !sameText s.userInfoTextField.text s.userInfoBuffer
          (setSavingEnabled { s with userNameBuffer := newText } isSavingEnabled, true)
      | some .userInfo =>
          let isSavingEnabled := !sameText newText s.userInfoBuffer ||
            !sameText s.userNameTextField.text s.userNameBuffer
          (setSavingEnabled { s with userInfoBuffer := newText } isSavingEnabled, true)
      | none => (s.setSavingEnabled false, true)

def imagePickerController (s : ProfileViewController Image)
    (editedImage : Option Image) : ProfileViewController Image :=
  match editedImage with
  | none => s
  -- shown over `profileImageView`, whose own image `userImage` reads
  | some pickedImage => { s with defaultProfileImageView := some pickedImage }

/-! ## Events of the user

UIKit asks the delegate about an edit and carries it out if the delegate allows
it.  The image picker may still be open from before an edit, so its result can
come at any time.
-/

def changeCharacters [Unicode] (s : ProfileViewController Image)
    (field : TextFieldType) (range : NSRange) (string : String) :
    Option (ProfileViewController Image) :=
  if (s.textField field).isEnabled then do
    let newText ← edited? (s.textField field).text range string
    let (s', allowed) := s.shouldChangeCharactersIn field range string
    some (if allowed then s'.setText field newText else s')
  else none

def handle [Unicode] (s : ProfileViewController Image) :
    UserEvent Image → Option (ProfileViewController Image)
  | .editProfilePressed =>
      if s.editButton.isTappable then some s.editProfilePressed else none
  | .cancelButtonPressed =>
      if s.cancelButton.isTappable then some s.cancelButtonPressed else none
  | .changeCharacters field range string => s.changeCharacters field range string
  | .finishPicking editedImage => some (s.imagePickerController editedImage)

/-! ## What the events change -/

section

variable {s s' : ProfileViewController Image}

/-- The profile that a tap on a Save button captures. -/
def captured (device : Device Image Data) (s : ProfileViewController Image) :
    Option (UserProfile Image) :=
  (s.userImage device).map (⟨s.userNameBuffer, s.userInfoBuffer, ·⟩)

theorem text_of_captured {device : Device Image Data} {profile : UserProfile Image}
    (h : s.captured device = some profile) : profile.text = s.buffer := by
  obtain ⟨image, -, rfl⟩ := Option.map_eq_some_iff.mp h
  funext field
  cases field <;> rfl

theorem saveTapped_eq (device : Device Image Data) :
    s.saveTapped device =
      match s.userImage device with
      | none => (s.saveButtonTapped, none)
      | some userImage => (s.saveButtonTapped.startActivityIndicator,
          some ⟨s.userNameBuffer, s.userInfoBuffer, userImage⟩) := rfl

theorem saveTapped_captured (device : Device Image Data) :
    (s.saveTapped device).2 = s.captured device := by
  rw [saveTapped_eq, captured]
  cases s.userImage device <;> rfl

theorem saveTapped_screen (device : Device Image Data) :
    (s.saveTapped device).1 = s.saveButtonTapped ∨
      (s.saveTapped device).1 = s.saveButtonTapped.startActivityIndicator := by
  rw [saveTapped_eq]
  cases s.userImage device with
  | none => exact Or.inl rfl
  | some userImage => exact Or.inr rfl

@[simp] theorem profileImageView_saveTapped (device : Device Image Data) :
    (s.saveTapped device).1.profileImageView = s.profileImageView := by
  rcases s.saveTapped_screen device with h | h <;> rw [h] <;> rfl

variable [Unicode]

theorem shouldChangeCharactersIn_none {field : TextFieldType} {range : NSRange}
    {string : String} (h : characterRange? (s.textField field).text range = none) :
    s.shouldChangeCharactersIn field range string = (s, true) := by
  simp [shouldChangeCharactersIn, h]

theorem shouldChangeCharactersIn_some {field : TextFieldType} {range : NSRange}
    {string : String} {textRange : Nat × Nat}
    (h : characterRange? (s.textField field).text range = some textRange) :
    s.shouldChangeCharactersIn field range string =
      let newText := replacingCharacters (s.textField field).text textRange string
      ((s.setBuffer field newText).setSavingEnabled
        (!sameText newText (s.buffer field) ||
          !sameText (s.textField field.other).text (s.buffer field.other)), true) := by
  cases field with
  | userName =>
      simp only [shouldChangeCharactersIn, TextFieldType.ofRawValue?_rawValue, h]
      rfl
  | userInfo =>
      simp only [shouldChangeCharactersIn, TextFieldType.ofRawValue?_rawValue, h]
      rfl

/-- The handler allows every edit; beyond the buttons it changes at most the
buffer of the field. -/
theorem shouldChangeCharactersIn_cases (field : TextFieldType) (range : NSRange)
    (string : String) :
    s.shouldChangeCharactersIn field range string = (s, true) ∨
      ∃ newText isSavingEnabled, s.shouldChangeCharactersIn field range string =
        ((s.setBuffer field newText).setSavingEnabled isSavingEnabled, true) := by
  cases h : characterRange? (s.textField field).text range with
  | none => exact Or.inl (shouldChangeCharactersIn_none h)
  | some textRange => exact Or.inr ⟨_, _, shouldChangeCharactersIn_some h⟩

theorem changeCharacters_eq_some {field : TextFieldType} {range : NSRange}
    {string : String} :
    s.changeCharacters field range string = some s' ↔
      (s.textField field).isEnabled = true ∧
        ∃ newText, edited? (s.textField field).text range string = some newText ∧
          (s.shouldChangeCharactersIn field range string).1.setText field newText =
            s' := by
  have hallows : (s.shouldChangeCharactersIn field range string).2 = true := by
    rcases s.shouldChangeCharactersIn_cases field range string with h | ⟨_, _, h⟩ <;>
      rw [h]
  simp [changeCharacters, Option.bind_eq_some_iff, hallows]

/-- The four events of the user as changes of the screen. -/
theorem handle_eq_some {e : UserEvent Image} (h : s.handle e = some s') :
    (e = .editProfilePressed ∧ s' = s.editProfilePressed) ∨
    (e = .cancelButtonPressed ∧ s' = s.cancelButtonPressed) ∨
    (∃ field range string newText, e = .changeCharacters field range string ∧
      edited? (s.textField field).text range string = some newText ∧
      s' = (s.shouldChangeCharactersIn field range string).1.setText field newText) ∨
    ∃ editedImage, e = .finishPicking editedImage ∧
      s' = s.imagePickerController editedImage := by
  cases e with
  | editProfilePressed =>
      simp only [handle, Option.ite_none_right_eq_some, Option.some.injEq] at h
      exact Or.inl ⟨rfl, h.2.symm⟩
  | cancelButtonPressed =>
      simp only [handle, Option.ite_none_right_eq_some, Option.some.injEq] at h
      exact Or.inr (Or.inl ⟨rfl, h.2.symm⟩)
  | changeCharacters field range string =>
      obtain ⟨-, newText, hedited, hs'⟩ := changeCharacters_eq_some.mp h
      exact Or.inr (Or.inr (Or.inl
        ⟨field, range, string, newText, rfl, hedited, hs'.symm⟩))
  | finishPicking editedImage =>
      exact Or.inr (Or.inr (Or.inr ⟨editedImage, rfl, (Option.some.inj h).symm⟩))

theorem profileImageView_handle {e : UserEvent Image} (h : s.handle e = some s') :
    s'.profileImageView = s.profileImageView := by
  rcases handle_eq_some h with ⟨-, rfl⟩ | ⟨-, rfl⟩ |
    ⟨field, range, string, newText, -, -, rfl⟩ | ⟨editedImage, -, rfl⟩
  · rfl
  · rfl
  · rcases s.shouldChangeCharactersIn_cases field range string with h | ⟨_, _, h⟩ <;>
      rw [h] <;> cases field <;> rfl
  · cases editedImage <;> rfl

/-- Only an edit of a field changes its buffer. -/
theorem buffer_handle {e : UserEvent Image} (h : s.handle e = some s')
    (field : TextFieldType) :
    s'.buffer field = s.buffer field ∨
      ∃ range string, e = .changeCharacters field range string := by
  rcases handle_eq_some h with ⟨-, rfl⟩ | ⟨-, rfl⟩ |
    ⟨edited, range, string, newText, rfl, -, rfl⟩ | ⟨editedImage, -, rfl⟩
  · exact Or.inl (by cases field <;> rfl)
  · exact Or.inl (by cases field <;> rfl)
  · by_cases hfield : edited = field
    · exact Or.inr ⟨range, string, by rw [hfield]⟩
    · left
      rcases s.shouldChangeCharactersIn_cases edited range string with h | ⟨_, _, h⟩ <;>
        rw [h] <;> cases edited <;> cases field <;> first | rfl | exact absurd rfl hfield
  · exact Or.inl (by cases editedImage <;> cases field <;> rfl)

omit [Unicode] in
theorem buffer_saveTapped (device : Device Image Data) :
    (s.saveTapped device).1.buffer = s.buffer := by
  funext field
  rcases s.saveTapped_screen device with h | h <;> rw [h] <;> cases field <;> rfl

omit [Unicode] in
theorem buffer_saveCompleted : s.saveCompleted.buffer = s.buffer := by
  funext field
  cases field <;> rfl

/-- The texts of the two fields. -/
def texts (s : ProfileViewController Image) (field : TextFieldType) : String :=
  (s.textField field).text

/-- The texts after an event of the user. -/
def typed (texts : TextFieldType → String) :
    UserEvent Image → TextFieldType → String
  | .changeCharacters field range string =>
      Function.update texts field
        ((edited? (texts field) range string).getD (texts field))
  | _ => texts

omit [Unicode] in
theorem texts_saveTapped (device : Device Image Data) :
    (s.saveTapped device).1.texts = s.texts := by
  funext field
  rcases s.saveTapped_screen device with h | h <;> rw [h] <;> cases field <;> rfl

omit [Unicode] in
theorem texts_saveCompleted : s.saveCompleted.texts = s.texts := by
  funext field
  cases field <;> rfl

omit [Unicode] in
theorem texts_setText (field : TextFieldType) (text : String) :
    (s.setText field text).texts = Function.update s.texts field text := by
  funext other
  cases field <;> cases other <;> simp [texts, textField, setText, Function.update]

theorem texts_handle {e : UserEvent Image} (h : s.handle e = some s') :
    s'.texts = typed s.texts e := by
  rcases handle_eq_some h with ⟨rfl, rfl⟩ | ⟨rfl, rfl⟩ |
    ⟨field, range, string, newText, rfl, hedited, rfl⟩ | ⟨editedImage, rfl, rfl⟩
  · funext field
    cases field <;> rfl
  · funext field
    cases field <;> rfl
  · have htexts : (s.shouldChangeCharactersIn field range string).1.texts = s.texts := by
      rcases s.shouldChangeCharactersIn_cases field range string with h | ⟨_, _, h⟩ <;>
        rw [h]
      funext other
      cases field <;> cases other <;> rfl
    rw [texts_setText, htexts]
    simp only [typed, texts, hedited, Option.getD_some]
  · funext field
    cases editedImage <;> cases field <;> rfl

end

end ProfileViewController

end Chatik
