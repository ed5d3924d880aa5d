/-
  RelayBroker.Http.Message

  Requests and responses, as far as the broker looks at them.
-/

import RelayBroker.Text.Utf8

namespace RelayBroker.Http

/-- A request. The values of headers are octets; a name may occur more than once. -/
structure Request where
  method : String
  target : String
  headers : List (String × Octets)
  body : Octets
deriving DecidableEq, Repr

/-- The media types of responses. -/
inductive ContentType where
  | plain
  | json
deriving DecidableEq, Repr

/-- The name of a media type. -/
def ContentType.name : ContentType → String
  | plain => "text/plain; charset=utf-8"
  | json => "application/json"

/-- A response. -/
structure Response where
  status : Nat
  contentType : ContentType
  body : Octets
deriving DecidableEq, Repr

/-- The headers of a response. Scripts of any origin may read it. -/
def Response.headers (r : Response) : List (String × String) := [
  ("access-control-allow-origin", "*"),
  ("access-control-allow-headers", "Origin, X-Session-ID"),
  ("content-type", r.contentType.name)]

/-- A response with a text. -/
def Response.text (status : Nat) (body : String) : Response :=
  ⟨status, .plain, Text.utf8 body⟩

/-- A successful response with a JSON document. -/
def Response.document (body : Octets) : Response :=
  ⟨200, .json, body⟩

namespace Request

/-! ## The path -/

/-- The part of a target in front of its query or fragment. -/
def beforeQuery (cs : List Char) : List Char :=
  cs.takeWhile fun c => c ≠ '?' && c ≠ '#'

/-- What follows the first `://` of a target, if there is one. -/
def afterScheme? : List Char → Option (List Char)
  | ':' :: '/' :: '/' :: rest => some rest
  | _ :: rest => afterScheme? rest
  | [] => none

/-- The path of a target: of an absolute one what follows its authority, a missing
path being the root. Nothing in it is decoded. -/
def pathOf (target : List Char) : List Char :=
  match target with
  | '/' :: _ => beforeQuery target
  | _ =>
    match afterScheme? (beforeQuery target) with
    | some rest =>
      match rest.dropWhile (· ≠ '/') with
      | [] => ['/']
      | path => path
    | none => if target = ['*'] then target else []

/-- The path of a request. -/
def path (r : Request) : String :=
  String.ofList (pathOf r.target.toList)

/-! ## Headers -/

/-- Whether an octet may stand in a header that is read as text. -/
def isVisible (b : UInt8) : Bool :=
  b = 0x09 || (0x20 ≤ b && b ≤ 0x7E)

/-- The first header of a name, in whatever letter case, if it can be read as text. -/
def header? (r : Request) (name : String) : Option String :=
  match r.headers.find? fun h => h.1.toLower = name.toLower with
  | some (_, value) =>
    if value.all isVisible then
      some (String.ofList (value.map fun (b : UInt8) => Char.ofNat b.toNat))
    else none
  | none => none

end Request

end RelayBroker.Http
