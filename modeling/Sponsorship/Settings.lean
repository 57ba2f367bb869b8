import Sponsorship.Command.Basic
import Sponsorship.Text.Blank

/-!
# Settings

What the service is started with, from named texts.

* `Settings.read`: the settings that the texts describe, or the first fault among them.
* `Settings.address`: where the service listens.
-/

namespace Sponsorship

open Text

/-- Why a text is no number or truth value. -/
inductive ValueError
  | empty
  | invalidDigit
  | tooLarge
  | notBool
  deriving DecidableEq, Repr

def ValueError.message : ValueError → String
  | .empty => "cannot parse integer from empty string"
  | .invalidDigit => "invalid digit found in string"
  | .tooLarge => "number too large to fit in target type"
  | .notBool => "provided string was not `true` or `false`"

inductive SettingsError
  | databaseUrlLacking
  | invalid (name : String) (cause : ValueError)
  | invalidAddress
  deriving DecidableEq, Repr

def SettingsError.message : SettingsError → String
  | .databaseUrlLacking => "configuration error: DATABASE_URL must be set"
  | .invalid name cause => "configuration error: " ++ name ++ " is invalid: " ++ cause.message
  | .invalidAddress =>
    "configuration error: invalid HOST:PORT combination: invalid socket address syntax"

structure Settings where
  databaseUrl : String
  host : String
  port : Nat
  maxConnections : Nat
  assigneeCap : Nat
  tracingEndpoint : Option String
  runMigrations : Bool
  deriving DecidableEq, Repr

def decimalDigit? (c : Char) : Option Nat :=
  if '0' ≤ c ∧ c ≤ '9' then some (c.toNat - '0'.toNat) else none

/-- The number of decimal digits, up to the first character that is none or that makes the number
too large. -/
def readDigits (limit : Nat) : Nat → List Char → Except ValueError Nat
  | n, [] => .ok n
  | n, c :: cs =>
    match decimalDigit? c with
    | none => .error .invalidDigit
    | some d => if limit < 10 * n + d then .error .tooLarge else readDigits limit (10 * n + d) cs

/-- A number up to `limit`, which may have a plus sign. -/
def readNatural (limit : Nat) (s : String) : Except ValueError Nat :=
  match s.toList with
  | [] => .error .empty
  | ['+'] | ['-'] => .error .invalidDigit
  | '+' :: cs => readDigits limit 0 cs
  | cs => readDigits limit 0 cs

def readBool (s : String) : Except ValueError Bool :=
  if s = "true" then .ok true else if s = "false" then .ok false else .error .notBool

namespace Settings

/-- A setting that has a value of its own when it is not given. -/
def readOr {α : Type} (given : String → Option String) (name : String) (standard : α)
    (read : String → Except ValueError α) : Except SettingsError α :=
  match given name with
  | none => .ok standard
  | some s => (read (trim s)).mapError (.invalid name)

/-- A text that is given and not empty. -/
def nonempty? (s : Option String) : Option String := s.filter fun t => !t.isEmpty

def read (given : String → Option String) : Except SettingsError Settings := do
  let databaseUrl ← match nonempty? (given "DATABASE_URL") with
    | some url => pure url
    | none => throw .databaseUrlLacking
  let port ← readOr given "PORT" 3000 (readNatural 0xffff)
  let maxConnections ← readOr given "DATABASE_MAX_CONNECTIONS" 10 (readNatural 0xffffffff)
  let assigneeCap ← readOr given "MAX_INPUT_ASSIGNEE_LIST_NUM" standardAssigneeCap
    (readNatural 0xffffffffffffffff)
  let runMigrations ← readOr given "RUN_MIGRATIONS" true readBool
  return { databaseUrl, host := (given "HOST").getD "0.0.0.0", port, maxConnections, assigneeCap,
           tracingEndpoint := nonempty? (given "OTEL_EXPORTER_OTLP_ENDPOINT"), runMigrations }

end Settings

end Sponsorship
