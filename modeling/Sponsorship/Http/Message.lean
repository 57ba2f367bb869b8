import Sponsorship.Http.Target
import Sponsorship.Json.Scan
import Sponsorship.Wire.Request

/-!
# Requests and responses

* `Request`: method, target, content type and body.
* `Refusal`: why a request is not understood, with its status.
* `Request.read`: the value of a body in JSON.
* `Response`: a status and a JSON body, if there is one.
-/

namespace Sponsorship.Http

open Text

structure Request where
  method : String
  target : Target
  contentType : Option String
  body : String

/-- A character of a token: the name of a method, or a part of a content type. -/
def isTokenChar (c : Char) : Bool := c.isAlphanum || "!#$%&'*+-.^_`|~".toList.contains c

/-- Whether a text can be the name of a method. -/
def isMethod (s : String) : Bool := !s.isEmpty && s.toList.all isTokenChar

/-- Whether a text can be the value of a header. -/
def isHeaderValue (s : String) : Bool :=
  s.toList.all fun c => c = '\t' || (' ' ≤ c && c != '\x7f')

inductive Refusal
  | noRoute
  | wrongMethod
  | undecodablePath
  | badQuery
  | unsupportedContent
  | badJson (error : ReadError)
  deriving DecidableEq, Repr

/-- Text that is not JSON is told apart from JSON of the wrong form. A value that can be no name
counts as the former. -/
def Refusal.status : Refusal → Nat
  | .noRoute => 404
  | .wrongMethod => 405
  | .undecodablePath | .badQuery => 400
  | .unsupportedContent => 415
  | .badJson .malformed | .badJson (.nameless _) => 400
  | .badJson _ => 422

/-! ## Content types -/

/-- The longest part in front of which every character satisfies `p`, and the rest. -/
def spanChars (p : Char → Bool) (cs : List Char) : List Char × List Char :=
  (cs.takeWhile p, cs.drop (cs.takeWhile p).length)

/-- What follows a value between quotes whose opening quote has been read. The value is not empty,
so a quote that comes first belongs to it. -/
def afterQuoted? : List Char → Option (List Char)
  | [] => none
  | _ :: cs =>
    match (spanChars (· != '"') cs).2 with
    | _ :: rest => some rest
    | [] => none

/-- Whether a text after a semicolon is a list of parameters. -/
def areParameters : (fuel : Nat) → List Char → Bool
  | 0, _ => false
  | _ + 1, [] => true
  | fuel + 1, ' ' :: cs => areParameters fuel cs
  | fuel + 1, cs =>
    let (name, rest) := spanChars isTokenChar cs
    match name.isEmpty, rest with
    | false, '=' :: '"' :: rest =>
      match (afterQuoted? rest).map (List.dropWhile (· = ' ')) with
      | some [] => true
      | some (';' :: rest) => areParameters fuel rest
      | _ => false
    | false, '=' :: rest =>
      match spanChars isTokenChar rest with
      | (_, []) => true
      | (_ :: _, ';' :: rest) => areParameters fuel rest
      | _ => false
    | _, _ => false

/-- Splits a subtype at its last plus sign, unless that is its first character. -/
def splitSuffix (subtype : List Char) : List Char × Option (List Char) :=
  let suffix := subtype.reverse.takeWhile (· != '+') |>.reverse
  let front := subtype.take (subtype.length - suffix.length - 1)
  if suffix.length = subtype.length || front.isEmpty then (subtype, none) else (front, some suffix)

/-- Whether a content type is JSON: `application/json`, or a subtype with the suffix `json`. -/
def isJsonType (s : String) : Bool :=
  let (kind, rest) := spanChars isTokenChar (s.toLower).toList
  match rest with
  | '/' :: rest =>
    let (subtype, rest) := spanChars isTokenChar rest
    let (front, suffix) := splitSuffix subtype
    s.toList.all (fun c => ' ' ≤ c && c ≤ '~' || c = '\t') &&
      kind = "application".toList && (front = "json".toList || suffix = some "json".toList) &&
      match rest with
      | [] => true
      | ';' :: rest => areParameters (rest.length + 1) rest
      | _ => false
  | _ => false

namespace Request

/-- The value of a body in JSON. What follows the value is looked at last. -/
def read {α : Type} (r : Request) (reader : Reader α) : Except Refusal α :=
  if !(r.contentType.any isJsonType) then .error .unsupportedContent
  else
    let (document, ends) := Document.scan r.body
    match reader document with
    | .error e => .error (.badJson e)
    | .ok a => if ends then .ok a else .error (.badJson .malformed)

end Request

structure Response where
  status : Nat
  body : Option Json

namespace Response

/-- A response to a request that is not understood. -/
def refuse (r : Refusal) : Response := { status := r.status, body := none }

def ok (body : Json) : Response := { status := 200, body := some body }

end Response

def faultStatus : Fault → Nat
  | .notFound _ => 404
  | .conflict _ => 409
  | .validation _ => 400
  | .infrastructure _ => 500

/-- The code of a fault in a response. -/
def faultCode : Fault → String
  | .notFound _ => "not_found"
  | .conflict _ => "conflict"
  | .validation _ => "validation_error"
  | .infrastructure _ => "infrastructure_error"

/-- What a client is told about a fault. Of a failure of the store or the catalog it learns only
the identifier under which the failure was noted. -/
def clientMessage (correlation : String) : Fault → String
  | .infrastructure _ => "internal error, correlation id " ++ correlation
  | fault => fault.message

def Response.ofFault (correlation : String) (fault : Fault) : Response :=
  { status := faultStatus fault
    body := some (.object [("error", .string (faultCode fault)),
      ("message", .string (clientMessage correlation fault))]) }

end Sponsorship.Http
