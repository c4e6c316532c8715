import ApiRecovery.Retrofit.HttpMethod
import ApiRecovery.Url.Host

/-!
# Networks

A network answers requests, each in the light of all earlier ones.
-/

namespace ApiRecovery

structure Request where
  method : HttpMethod
  url : String
  body : Option String
  deriving DecidableEq, Repr

inductive Reply
  /-- the URL cannot be requested -/
  | refused
  /-- no server can be reached -/
  | unreachable
  /-- the connection ends without an answer -/
  | dropped
  | answered (status : Nat) (page : String)
  deriving DecidableEq, Repr

namespace Reply

def noStatus : Nat := 0

def status : Reply → Nat
  | answered status _ => status
  | _ => noStatus

end Reply

abbrev Traffic := List (Request × Reply)

/-- What a network replies to a request, given the earlier traffic. -/
abbrev Network := Traffic → Request → Reply

def Url.isRequestable (url : String) : Bool :=
  match Url.cutScheme? (Url.clean url) with
  | some (scheme, _) => (scheme == "http" || scheme == "https") && (Url.parsedHost? url).isSome
  | none => false

def Network.empty : Network := fun _ r =>
  if Url.isRequestable r.url then .unreachable else .refused

end ApiRecovery
