import InventoryQuery.Error
import InventoryQuery.Json.Fault
import InventoryQuery.Url.Basic
import InventoryQuery.Url.Percent
/-! # Requests and replies

A transport sends one request and yields a reply or a failure; its state stands for all that may
change between requests. `Transport.webOnly` keeps every URL from a transport that is not for the
web.
-/

namespace InventoryQuery.Service

/-- A reply to a request. -/
structure Reply where
  status : Nat
  body : String
  deriving DecidableEq, Repr

/-- Whether a reply tells of success. -/
def Reply.isSuccess (reply : Reply) : Bool :=
  200 ≤ reply.status && reply.status < 300

/-- Why an execution yields no hosts. -/
inductive Failure where
  | query (error : QueryError)
  | invalidUrl (url reason : String)
  | request (detail : String)
  | status (code : Nat) (url : String)
  | body (error : Json.Error)
  | missingHostKey (index : Nat) (key : String)
  deriving DecidableEq, Repr

namespace Failure

/-- The message for a failure. -/
def message : Failure → String
  | query error => "query error: " ++ error.message
  | invalidUrl url reason => "invalid URL '" ++ url ++ "': " ++ reason
  | request detail => "HTTP request failed: " ++ detail
  | .status code url => "HTTP " ++ toString code ++ " from " ++ url
  | body error => "invalid response body: " ++ error.message
  | missingHostKey index key =>
    "response entry " ++ toString index ++ " has no string '" ++ key ++ "' field"

/-- Whether the request failed or was answered with a status other than success. -/
def isTransport : Failure → Bool
  | request _ => true
  | status .. => true
  | _ => false

/-- Whether the body of the reply is not what it should be. -/
def isParse : Failure → Bool
  | body _ => true
  | missingHostKey .. => true
  | _ => false

end Failure

/-- Sends a request for a URL in some state. -/
abbrev Transport (σ : Type) := Url → σ → Except Failure Reply × σ

/-- The text of a percent-encoded part, if it is UTF-8. -/
def decodedPart? (part : String) : Option (List Char) :=
  Text.ofBytes? (Url.percentDecode (Text.bytes part.toList))

/-- A URL without its user name and password. They stay if the user name is not UTF-8, or if there
is only a password and that is not UTF-8. -/
def withoutUserinfo (url : Url) : Url :=
  match url.authority with
  | none => url
  | some authority =>
    let named := authority.username ≠ ""
    let secret := authority.password ≠ "" ∧ (decodedPart? authority.password).isSome
    if (decodedPart? authority.username).isSome ∧ (named ∨ secret) then
      { url with authority := some { authority with username := "", password := "" } }
    else url

/-- A transport that refuses every URL that is not for the web before it sends anything. -/
def Transport.webOnly {σ : Type} (transport : Transport σ) : Transport σ := fun url state =>
  if url.scheme = "http" ∨ url.scheme = "https" then transport url state
  else
    let shown := (withoutUserinfo url).text
    (.error (.request ("builder error for url (" ++ shown ++ ")")), state)

end InventoryQuery.Service
