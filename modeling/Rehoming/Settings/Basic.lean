import Rehoming.Policy
import Rehoming.Settings.Address
import Rehoming.Text.Ascii
import Rehoming.Text.Blank
/-!
# Settings

The settings of the service, read from named variables that are texts.  A variable that is
not set leaves its default.  The first variable that cannot be used is reported; only when all
can be read on their own are the bounds compared with each other.
-/

namespace Rehoming

/-- What an installation is for. -/
inductive Environment where
  | development
  | test
  | production
  deriving DecidableEq, Repr

namespace Environment

/-- An environment by one of its names; white space around it and the case of ASCII letters do
not matter, and an unknown name means development. -/
def ofText (s : String) : Environment :=
  match Text.asciiLowercase (Text.trim s) with
  | "prod" | "production" => production
  | "test" | "ci" => test
  | _ => development

/-- The written form. -/
def label : Environment → String
  | development => "Development"
  | test => "Test"
  | production => "Production"

end Environment

/-- Why settings cannot be used. -/
inductive SettingsError where
  | port
  | host
  | number (variableName : String) (raw : String)
  | range (variableName : String) (value low high : Nat)
  | pageBounds (default max : Nat)
  | referenceBounds (maxReferences maxSlots : Nat)
  deriving DecidableEq, Repr

namespace SettingsError

/-- The words for whoever runs the service. -/
def message : SettingsError → String
  | port => "APP_PORT must be a valid u16"
  | host => "APP_HOST must parse to an IPv4 or IPv6 address"
  | number variableName raw =>
    variableName ++ " must be a non-negative number, found '" ++ raw ++ "'"
  | range variableName value low high =>
    variableName ++ " must be between " ++ toString low ++ " and " ++ toString high ++ ", found '"
      ++ toString value ++ "'"
  | pageBounds default max =>
    "page size bounds are inconsistent (default " ++ toString default ++ ", max " ++ toString max ++ ")"
  | referenceBounds maxReferences maxSlots =>
    "reference bounds are inconsistent (max references " ++ toString maxReferences ++ ", max slots "
      ++ toString maxSlots ++ ")"

/-- Whether the error has a deeper one as its reason: an address that cannot be read. -/
def hasReason : SettingsError → Bool
  | host => true
  | _ => false

end SettingsError

/-- The settings of the service. -/
structure Settings where
  environment : Environment := .development
  host : String := "127.0.0.1"
  port : UInt16 := 3000
  logLevel : String := "info"
  policy : Policy := {}
  deriving DecidableEq, Repr

namespace Settings

/-- The values of the variables that are set. -/
abbrev Variables := String → Option String

/-- A number below `limit`, with white space around it or not. -/
def numberOr (vars : Variables) (variableName : String) (limit default : Nat) :
  Except SettingsError Nat
  :=
  match vars variableName with
  | none => .ok default
  | some raw =>
    match Number.numeral? limit (Text.trim raw) with
    | some n => .ok n
    | none => .error (.number variableName raw)

/-- The variable for how long a submitted application stays open. -/
def ttlVariable : String :=
  "ADOPTION_APPLICATION_TTL_DAYS"

/-- For how many days at least a submitted application stays open. -/
def minTtlDays : Nat := 1

/-- For how many days at most a submitted application stays open. -/
def maxTtlDays : Nat := 3650

/-- For how many days a submitted application stays open. -/
def ttlDays (vars : Variables) (default : Nat) : Except SettingsError Nat := do
  let n ← numberOr vars ttlVariable (Number.wordLimit 16) default
  if minTtlDays ≤ n ∧ n ≤ maxTtlDays then return n
  else throw (.range ttlVariable n minTtlDays maxTtlDays)

/-- The port to listen on, without white space around it. -/
def portOr (vars : Variables) (default : UInt16) : Except SettingsError UInt16 :=
  match vars "APP_PORT" with
  | none => .ok default
  | some raw =>
    match Number.numeral? (Number.wordLimit 16) raw with
    | some n => .ok (UInt16.ofNat n)
    | none => .error .port

/-- The limits of the workflow, each read on its own. -/
def policyOf (vars : Variables) : Except SettingsError Policy := do
  let default : Policy := {}
  let ttlDays ← ttlDays vars default.ttlDays
  let maxReferences ← numberOr vars "ADOPTION_MAX_REFERENCES" (Number.wordLimit 64) default.maxReferences
  let maxReferenceSlots ←
    numberOr vars "ADOPTION_MAX_REFERENCE_SLOTS" (Number.wordLimit 64) default.maxReferenceSlots
  let defaultPageSize ← numberOr vars "ADOPTION_DEFAULT_PAGE_SIZE" (Number.wordLimit 32) default.defaultPageSize
  let maxPageSize ← numberOr vars "ADOPTION_MAX_PAGE_SIZE" (Number.wordLimit 32) default.maxPageSize
  let transitionRetries ←
    numberOr vars "ADOPTION_TRANSITION_RETRIES" (Number.wordLimit 8) default.transitionRetries
  return { ttlDays, maxReferences, maxReferenceSlots, defaultPageSize, maxPageSize, transitionRetries }

/-- Limits that fit each other: pages are not empty and the usual one is not too long, and
there is room for the references that may be given. -/
def consistent (p : Policy) : Except SettingsError Policy :=
  if p.maxPageSize = 0 ∨ p.defaultPageSize > p.maxPageSize then
    .error (.pageBounds p.defaultPageSize p.maxPageSize)
  else if p.maxReferences = 0 ∨ p.maxReferenceSlots < p.maxReferences then
    .error (.referenceBounds p.maxReferences p.maxReferenceSlots)
  else .ok p

/-- Reads the settings from variables. -/
def ofVariables (vars : Variables) : Except SettingsError Settings := do
  let default : Settings := {}
  let environment := ((vars "APP_ENV").map Environment.ofText).getD default.environment
  let host := (vars "APP_HOST").getD default.host
  let port ← portOr vars default.port
  let logLevel := (vars "APP_LOG_LEVEL").getD default.logLevel
  let policy ← policyOf vars
  return { environment, host, port, logLevel, policy := ← consistent policy }

/-- The address to listen on. -/
def address (s : Settings) : Except SettingsError Address :=
  if Text.equalIgnoringAsciiCase s.host "localhost" then .ok .loopback
  else match Address.ofText? s.host with
    | some a => .ok a
    | none => .error .host

/-- The written form of the address and port to listen on. -/
def socketText (s : Settings) : Except SettingsError String :=
  s.address.map (·.socketText s.port)

end Settings

end Rehoming
