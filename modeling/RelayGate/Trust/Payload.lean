import RelayGate.Trust.Verdict
import RelayGate.Text.Blank
import RelayGate.Text.Decimal

namespace RelayGate

structure PlayPayload.Request where
  package : Option String
  /-- In milliseconds. -/
  time : Option UInt64
  nonce : Option String
deriving DecidableEq

structure PlayPayload.App where
  recognition : Option String
deriving DecidableEq

structure PlayPayload.Account where
  licensing : Option String
deriving DecidableEq

structure PlayPayload.Device where
  labels : List String
deriving DecidableEq

structure PlayPayload where
  request : Option PlayPayload.Request
  app : Option PlayPayload.App
  account : Option PlayPayload.Account
  device : Option PlayPayload.Device
deriving DecidableEq

namespace PlayPayload

/-- A time is a number or a text that holds one, with blanks around it and a plus sign allowed. -/
def time? : Json → Option (Option UInt64)
  | .null => some none
  | .number n => (Json.uint64? (.number n)).map some
  | .string (some s) => (Text.readNat64 (Text.trim s)).map fun n => some (UInt64.ofNat n)
  | _ => none

open Json in
def readRequest (v : Json) : Option Request :=
  match Shape.columns ⟨["requestPackageName", "timestampMillis", "nonce"], 0⟩ v with
  | some [package, time, nonce] => do
    return {
      package := ← optional text? package
      time := ← orElse none time? time
      nonce := ← optional text? nonce }
  | _ => none

open Json in
def readApp (v : Json) : Option App :=
  match Shape.columns ⟨["appRecognitionVerdict"], 0⟩ v with
  | some [recognition] => (optional text? recognition).map App.mk
  | _ => none

open Json in
def readAccount (v : Json) : Option Account :=
  match Shape.columns ⟨["appLicensingVerdict"], 0⟩ v with
  | some [licensing] => (optional text? licensing).map Account.mk
  | _ => none

open Json in
def readDevice (v : Json) : Option Device :=
  match Shape.columns ⟨["deviceRecognitionVerdict"], 0⟩ v with
  | some [labels] => (orElse [] (list? text?) labels).map Device.mk
  | _ => none

open Json in
def ofJson? (v : Json) : Option PlayPayload :=
  match Shape.columns ⟨["requestDetails", "appIntegrity", "accountDetails", "deviceIntegrity"], 0⟩ v with
  | some [request, app, account, device] => do
    return {
      request := ← optional readRequest request
      app := ← optional readApp app
      account := ← optional readAccount account
      device := ← optional readDevice device }
  | _ => none

def parse (s : String) : Option PlayPayload := (Json.parse s).bind ofJson?

def labelTier : String → Tier
  | "MEETS_STRONG_INTEGRITY" => .strong
  | "MEETS_DEVICE_INTEGRITY" => .device
  | "MEETS_BASIC_INTEGRITY" => .basic
  | _ => .unknown

def tier (p : PlayPayload) : Tier :=
  match p.device with
  | none => .unknown
  | some d => (d.labels.map labelTier).foldl .max .unknown

def recognition (p : PlayPayload) : Option String := p.app.bind (·.recognition)

def licensing (p : PlayPayload) : Option String := p.account.bind (·.licensing)

end PlayPayload

end RelayGate
