import SecurityDashboards.Lib.JsString
import SecurityDashboards.Lib.Machine

/-!
# The panel that resets the password

`apps/account/password-reset-panel.tsx`: a press of its button checks the current password by a login,
then changes the password, then logs out. The panel can be edited, and its button pressed again, while
the requests of a press are on their way.
-/

namespace SecurityDashboards

/-! ## Errors -/

def GENERIC_ERROR_INSTRUCTION : String :=
  "You may refresh the page to retry or see browser console for more information."

def PASSWORDS_TOOL_DIRECTORY : String := "/usr/share/wazuh-indexer/tools"

def getPasswordsToolCommand (username : String) : String :=
  "cd " ++ PASSWORDS_TOOL_DIRECTORY ++ " && bash wazuh-passwords-tool.sh -u " ++ username ++ " -p"

def RESERVED_USER_PASSWORD_INSTRUCTION : String :=
  "This is a reserved user, so its password cannot be changed from the dashboard. " ++
    "Change it from the Wazuh indexer host by running:"

/-- The exception is given by the message in its body. -/
def constructErrorMessageAndLog (exception : Option String) (messagePrefix : String) : String :=
  let message := (exception.filter (· != "")).getD GENERIC_ERROR_INSTRUCTION
  if messagePrefix = "" then message else messagePrefix ++ " " ++ message

/-- The regular expression ignores the case of ASCII letters only. -/
def isReservedResourceError (exception : Option String) : Bool :=
  Js.includes (exception.getD "").toLower "is reserved"

namespace PasswordResetPanel

/-! ## The panel -/

structure Panel where
  currentPassword : String := ""
  isCurrentPasswordInvalid : Bool := false
  currentPasswordError : List String := []
  newPassword : String := ""
  repeatNewPassword : String := ""
  isRepeatNewPasswordInvalid : Bool := false
  errorCallOut : String := ""
deriving DecidableEq

def isResetButtonDisabled (currentPassword newPassword : String)
    (isRepeatNewPasswordInvalid : Bool) : Bool :=
  currentPassword == "" || newPassword == "" || isRepeatNewPasswordInvalid

namespace Panel

def disabled (panel : Panel) : Bool :=
  isResetButtonDisabled panel.currentPassword panel.newPassword panel.isRepeatNewPasswordInvalid

def setCurrentPassword (value : String) (panel : Panel) : Panel :=
  { panel with currentPassword := value, isCurrentPasswordInvalid := false }

/-- The passwords are compared as they were before the change. -/
def setNewPassword (value : String) (panel : Panel) : Panel :=
  { panel with
    newPassword := value
    isRepeatNewPasswordInvalid := panel.repeatNewPassword != panel.newPassword }

def setRepeatNewPassword (value : String) (panel : Panel) : Panel :=
  { panel with
    repeatNewPassword := value
    isRepeatNewPasswordInvalid := value != panel.newPassword }

def invalidCurrentPassword (message : String) (panel : Panel) : Panel :=
  { panel with
    isCurrentPasswordInvalid := true
    currentPasswordError := ["Invalid current password. " ++ message] }

def failed (username : String) (exception : Option String) (panel : Panel) : Panel :=
  { panel with
    errorCallOut :=
      if isReservedResourceError exception then
        "Failed to reset password. " ++ RESERVED_USER_PASSWORD_INSTRUCTION ++ " " ++
          getPasswordsToolCommand username
      else constructErrorMessageAndLog exception "Failed to reset password." }

end Panel

/-! ## Resets -/

inductive Request where
  | validateCurrentPassword (username currentPassword : String)
  | updateNewPassword (newPassword currentPassword : String)
  | logout
deriving DecidableEq

/-- The answer that a call of `handleReset` waits for. -/
inductive Awaits where
  | validateCurrentPassword
  | updateNewPassword
  | logout
  /-- The call has returned. -/
  | nothing
deriving DecidableEq

/-- A call of `handleReset`. The passwords are those of the render that it was called from. -/
structure Reset where
  newPassword : String
  currentPassword : String
  awaits : Awaits
deriving DecidableEq

structure State where
  panel : Panel := {}
  /-- All calls so far. -/
  resets : List Reset := []
deriving DecidableEq

inductive Event where
  | setCurrentPassword (value : String)
  | setNewPassword (value : String)
  | setRepeatNewPassword (value : String)
  | handleReset
  /-- What a call waits for is there: an error is given by its message. -/
  | answered (reset : ℕ) (answer : Except (Option String) Unit)

/-- The event edits one of the two fields for the new password. -/
def Event.EditsNewPassword : Event → Prop
  | setNewPassword _ => True
  | setRepeatNewPassword _ => True
  | _ => False

namespace State

/-- The call waits for the next answer. -/
def await (i : ℕ) (reset : Reset) (awaits : Awaits) (s : State) : State :=
  { s with resets := s.resets.set i { reset with awaits } }

/-- The call returns, with this effect on the panel. -/
def finish (i : ℕ) (reset : Reset) (update : Panel → Panel) (s : State) : State :=
  { panel := update s.panel, resets := s.resets.set i { reset with awaits := .nothing } }

end State

section Step

variable (username : String)

/-- A call goes on with the answer that it has waited for. -/
def resume (i : ℕ) (reset : Reset) (answer : Except (Option String) Unit) (s : State) :
    Option Request × State :=
  match reset.awaits, answer with
  | .validateCurrentPassword, .ok () =>
    (some (.updateNewPassword reset.newPassword reset.currentPassword),
      s.await i reset .updateNewPassword)
  | .validateCurrentPassword, .error message =>
    (none, s.finish i reset (Panel.invalidCurrentPassword (message.getD "")))
  | .updateNewPassword, .ok () => (some .logout, s.await i reset .logout)
  | .updateNewPassword, .error exception => (none, s.finish i reset (Panel.failed username exception))
  | .logout, .ok () => (none, s.finish i reset id)
  | .logout, .error exception => (none, s.finish i reset (Panel.failed username exception))
  | .nothing, _ => (none, s)

/-- The request that an event sends, and the state after it. -/
def step (event : Event) (s : State) : Option Request × State :=
  match event with
  | .setCurrentPassword value => (none, { s with panel := s.panel.setCurrentPassword value })
  | .setNewPassword value => (none, { s with panel := s.panel.setNewPassword value })
  | .setRepeatNewPassword value => (none, { s with panel := s.panel.setRepeatNewPassword value })
  | .handleReset =>
    if s.panel.disabled then (none, s)
    else
      (some (.validateCurrentPassword username s.panel.currentPassword),
        { s with
          resets := s.resets ++
            [{ newPassword := s.panel.newPassword
               currentPassword := s.panel.currentPassword
               awaits := .validateCurrentPassword }] })
  | .answered i answer =>
    match s.resets[i]? with
    | some reset => resume username i reset answer s
    | none => (none, s)

/-- The state after the events. -/
def after (events : List Event) : State := Machine.exec (step username) events {}

/-- What the panel knows of the new password when its button is pressed after these events. The one
entered again is the same if its field was edited last; after an edit of the other field, it is only
what that field had before. -/
structure Entered (newPassword : String) (events : List Event) : Prop where
  again : ∀ first value rest, events = first ++ .setRepeatNewPassword value :: rest →
    (∀ event ∈ rest, ¬event.EditsNewPassword) → value = newPassword
  before : ∀ first value rest, events = first ++ .setNewPassword value :: rest →
    (∀ event ∈ rest, ¬event.EditsNewPassword) →
      (after username first).panel.repeatNewPassword = (after username first).panel.newPassword

/-- The press after these events sends its passwords. -/
structure PressedWith (newPassword currentPassword : String) (events : List Event) : Prop where
  filled : (after username events).panel.newPassword = newPassword ∧
    (after username events).panel.currentPassword = currentPassword
  nonempty : newPassword ≠ "" ∧ currentPassword ≠ ""
  entered : Entered username newPassword events
  /-- The login that the press sends. -/
  sent : (step username .handleReset (after username events)).1 =
    some (.validateCurrentPassword username currentPassword)

end Step

end PasswordResetPanel

end SecurityDashboards
