import DisclosureRelay.Json.Reader

/-!
# Settings

The timing of the return, the time limit of requests and the contact shown when a return failed.
`Settings.fault?` tells what is unsafe about settings, `Settings.read` reads them from JSON, and
`Settings.load` reads them from a file and refuses unsafe ones.
-/

namespace DisclosureRelay

/-- The settings of the relay. The times in milliseconds count from the moment a return is
scheduled. -/
structure Settings where
  submitDelayMs : Nat := 2000
  fallbackTimeoutMs : Nat := 10000
  httpTimeoutSecs : Nat := 10
  supportContact : String := "support@yivi.app"
  deriving DecidableEq

namespace Settings

/-- The shortest delay before a form is submitted. -/
def leastSubmitDelayMs : Nat := 2000

/-- The shortest time after which a return counts as failed. -/
def leastFallbackTimeoutMs : Nat := 10000

/-- Why settings are unsafe. -/
inductive Fault where
  | submitDelayTooShort
  | fallbackTooShort
  | fallbackBeforeSubmit
  | noHttpTimeout
  deriving DecidableEq

/-- The wording of a fault. -/
def Fault.message : Fault → String
  | .submitDelayTooShort => "submit_delay_ms must be at least " ++ toString leastSubmitDelayMs
  | .fallbackTooShort => "fallback_timeout_ms must be at least " ++ toString leastFallbackTimeoutMs
  | .fallbackBeforeSubmit => "fallback_timeout_ms must exceed submit_delay_ms"
  | .noHttpTimeout => "http_timeout_secs must be positive"

/-- The first thing that is unsafe about settings, if any. -/
def fault? (settings : Settings) : Option Fault :=
  if settings.submitDelayMs < leastSubmitDelayMs then some .submitDelayTooShort
  else if settings.fallbackTimeoutMs < leastFallbackTimeoutMs then some .fallbackTooShort
  else if settings.fallbackTimeoutMs ≤ settings.submitDelayMs then some .fallbackBeforeSubmit
  else if settings.httpTimeoutSecs = 0 then some .noHttpTimeout
  else none

/-- The settings as a JSON object. -/
def json (settings : Settings) : Json :=
  .object
    [("submit_delay_ms", .natural settings.submitDelayMs),
     ("fallback_timeout_ms", .natural settings.fallbackTimeoutMs),
     ("http_timeout_secs", .natural settings.httpTimeoutSecs),
     ("support_contact", .text settings.supportContact)]

/-- The members of settings. -/
inductive Member where
  | submitDelayMs
  | fallbackTimeoutMs
  | httpTimeoutSecs
  | supportContact
  deriving DecidableEq

namespace Member

/-- The members in the order of their declaration. -/
def all : List Member :=
  [submitDelayMs, fallbackTimeoutMs, httpTimeoutSecs, supportContact]

/-- The name of a member. -/
def name : Member → String
  | submitDelayMs => "submit_delay_ms"
  | fallbackTimeoutMs => "fallback_timeout_ms"
  | httpTimeoutSecs => "http_timeout_secs"
  | supportContact => "support_contact"

/-- The member of a name. -/
def named? (name : String) : Option Member :=
  all.find? (·.name = name)

end Member

/-- The names of the members. -/
def memberNames : List String :=
  Member.all.map Member.name

/-- The members that were read. -/
structure Draft where
  submitDelayMs : Option Nat := none
  fallbackTimeoutMs : Option Nat := none
  httpTimeoutSecs : Option Nat := none
  supportContact : Option String := none

/-- The settings of a draft; what is missing has its default. -/
def Draft.settings (draft : Draft) : Settings :=
  let standard : Settings := {}
  { submitDelayMs := draft.submitDelayMs.getD standard.submitDelayMs
    fallbackTimeoutMs := draft.fallbackTimeoutMs.getD standard.fallbackTimeoutMs
    httpTimeoutSecs := draft.httpTimeoutSecs.getD standard.httpTimeoutSecs
    supportContact := draft.supportContact.getD standard.supportContact }

/-- Whether a member was read. -/
def Draft.has (draft : Draft) : Member → Bool
  | .submitDelayMs => draft.submitDelayMs.isSome
  | .fallbackTimeoutMs => draft.fallbackTimeoutMs.isSome
  | .httpTimeoutSecs => draft.httpTimeoutSecs.isSome
  | .supportContact => draft.supportContact.isSome

open Json Reader in
/-- Reads the value of a member. -/
def Draft.item (draft : Draft) : Member → Reader Draft
  | .submitDelayMs => do return { draft with submitDelayMs := some (← natural) }
  | .fallbackTimeoutMs => do return { draft with fallbackTimeoutMs := some (← natural) }
  | .httpTimeoutSecs => do return { draft with httpTimeoutSecs := some (← natural) }
  | .supportContact => do return { draft with supportContact := some (← text) }

open Json Reader in
/-- Reads a member that stands behind its name; no other names are known, and none may be
repeated. -/
def Draft.member (draft : Draft) (name : String) : Reader Draft :=
  match Member.named? name with
  | some member =>
    if draft.has member then fail (.repeatedMember name) else afterColon (draft.item member)
  | none => fail (.unknownMember name memberNames)

open Json Reader in
/-- Reads the values of members from the items of a list, from behind the items read before and over
the closing bracket. -/
def Draft.items (draft : Draft) (first : Bool) : List Member → Reader Draft
  | [] => do
    listEnd
    return draft
  | member :: members => do
    if ← moreItems first then
      let draft ← draft.item member
      draft.items false members
    else
      listEnd
      return draft

open Json Reader in
/-- Reads settings from a list of their values. -/
def readList : Reader Settings := do
  let draft ← Draft.items {} true Member.all
  return draft.settings

open Json Reader in
/-- Reads settings from an object. -/
def readObject : Reader Settings := do
  let draft ← members Draft.member {}
  return draft.settings

open Json Reader in
/-- Reads settings. -/
def read (depth : Nat) : Reader Settings :=
  let expected := "struct RelayConfig"
  cases (fun value => fail (.wrongType (found value) expected)) (nested depth fun _ => readList)
    (nested depth fun _ => readObject)

/-- What became of reading a file: its bytes, or the reason why there are none. -/
abbrev FileRead := Except String ByteArray

/-- Why no settings came out of a file. -/
inductive LoadFault where
  | unreadable (reason : String)
  | malformed (fault : Json.Fault)
  | refused (fault : Fault)
  deriving DecidableEq

/-- The wording of the fault of a file of a name. -/
def LoadFault.message (name : String) : LoadFault → String
  | .unreadable _ => "Failed to read relay config: " ++ Text.quoted name
  | .malformed _ => "Failed to parse relay config: " ++ Text.quoted name
  | .refused fault => fault.message

/-- What is behind the fault of a file. -/
def LoadFault.cause : LoadFault → Option String
  | .unreadable reason => some reason
  | .malformed fault => some fault.message
  | .refused _ => none

/-- Reads settings from a text and refuses unsafe ones. -/
def parse (raw : String) : Except LoadFault Settings :=
  match Json.parse (read Json.depthLimit) raw with
  | .error fault => .error (.malformed fault)
  | .ok settings =>
    match settings.fault? with
    | some fault => .error (.refused fault)
    | none => .ok settings

/-- Reads settings from a file and refuses unsafe ones. -/
def load (file : FileRead) : Except LoadFault Settings :=
  match file with
  | .error reason => .error (.unreadable reason)
  | .ok bytes =>
    match String.fromUTF8? bytes with
    | none => .error (.unreadable "stream did not contain valid UTF-8")
    | some raw => parse raw

end Settings

end DisclosureRelay
