import Vigil.Check
import Vigil.Text.Numeral
import Vigil.Url
import Vigil.Url.Strict
/-!
Probing targets over a network. A network is what it answers to three kinds of attempts; how a
target is understood, and what is said about a failed attempt, does not depend on it.
-/

namespace Vigil

/-- Why no connection came about. -/
inductive Network.Fault where
  | unreachable
  | refused
  | unresolved
  | timedOut
  deriving DecidableEq, Repr

/-- Answers of a network. A success comes with its latency in milliseconds, and, where the
protocol has one, with a status code. -/
structure Network where
  /-- Open a connection to a host and a port. -/
  connect : String → Nat → Except Network.Fault Nat
  /-- Fetch a URL, following redirects. -/
  fetch : Url → Except Network.Fault (Nat × Nat)
  /-- Open a connection to a host and a port and do the opening handshake for an address. -/
  upgrade : String → Nat → String → Except Network.Fault (Nat × Nat)

namespace Network

def Fault.text : Fault → String
  | unreachable => "Network is unreachable (os error 101)"
  | refused => "Connection refused (os error 111)"
  | unresolved => "failed to lookup address information: Temporary failure in name resolution"
  | timedOut => "Connection timed out (os error 110)"

/-- Whether a host is an address and needs no name service. -/
def isNumeric (host : String) : Bool :=
  let cs := host.toList
  let bare := if cs.head? = some '[' then (cs.drop 1).dropLast else cs
  host = "localhost" || (Url.IPv6.parse? bare).isSome ||
    (Url.IPv4.isMeant cs && (Url.IPv4.parse? cs).isSome)

/-- A network that leads nowhere. -/
def offline : Network :=
  let fail (host : String) : Fault := if isNumeric host then .unreachable else .unresolved
  { connect := fun host _ => .error (fail host)
    fetch := fun _ => .error .unreachable
    upgrade := fun host _ _ => .error (fail host) }

/-- A failed probe whose single cause is a text. -/
private def fail (message : String) : Answer := .failed [message]

/-- Connect to `host:port`, the port standing behind the last colon. -/
def probeTcp (n : Network) (target : String) : Answer :=
  let failed (why : String) := fail ("TCP connection failed: " ++ why)
  match Url.splitLast? ':' target.toList with
  | none => failed "invalid socket address"
  | some (host, portText) =>
    match Text.numeral? 65535 portText with
    | none => failed "invalid port value"
    | some port =>
      match n.connect (String.ofList host) port with
      | .error .timedOut => fail "TCP connection timeout"
      | .error e => failed e.text
      | .ok latency => .reached latency none

/-- Whether a URL can be fetched at all. -/
def isFetchable (url : Url) : Bool :=
  (url.scheme == "http" || url.scheme == "https") &&
    url.host.any fun
      | .domain name => !name.any ("\"`\x7b\x7d".contains ·)
      | _ => true

/-- Fetch a URL; client and server errors are failures. User information is never shown. -/
def probeHttp (n : Network) (target : String) : Answer :=
  let failed (why : String) := fail ("HTTP request failed: " ++ why)
  match Url.parse target with
  | .error _ => failed "builder error"
  | .ok url =>
    let url := { url with username := [], password := [] }
    let about := " for url (" ++ url.text ++ ")"
    if !isFetchable url then failed ("builder error" ++ about)
    else
      match n.fetch url with
      | .error _ => failed ("error sending request" ++ about)
      | .ok (latency, status) =>
        if 400 ≤ status ∧ status < 600 then fail ("HTTP status " ++ toString status)
        else .reached latency (some status)

/-- Connect to the host of an address, at its port or its scheme's, and shake hands. -/
def probeWebSocket (n : Network) (target : String) : Answer :=
  let failed (why : String) := fail ("WebSocket dial failed: " ++ why)
  let unusable (why : String) := failed ("URL error: " ++ why)
  match Url.StrictAddress.parse target with
  | .error e => failed ("HTTP format error: " ++ e.message)
  | .ok address =>
    match address.authority with
    | none => unusable "No host name in the URL"
    | some authority =>
      let defaultPort := match address.scheme with
        | some "ws" => some 80
        | some "wss" => some 443
        | _ => none
      match (Url.StrictAddress.portOf? authority).orElse fun _ => defaultPort with
      | none => unusable "URL scheme not supported"
      | some port =>
        match n.upgrade (String.ofList (Url.StrictAddress.hostOf authority)) port target with
        | .error .timedOut => fail "WebSocket handshake timeout"
        | .error e => failed ("IO error: " ++ e.text)
        | .ok (latency, status) => .reached latency (some status)

/-- What an executor gets to know about a target, by its own protocol. -/
def answerTo (n : Network) (e : Executor) (target : String) : Answer :=
  if e = .tcp then n.probeTcp target
  else if e = .webSocket then n.probeWebSocket target
  else n.probeHttp target

def answer (n : Network) (type : CheckType) (target : String) : Answer :=
  n.answerTo type.executor target

/-- The probe of a monitor by the executor for its check type: it takes as long as its answer
says. -/
def probe (n : Network) (m : Monitor) : Probe :=
  let answer := n.answer m.checkType m.target
  { answer
    delay := match answer with
      | .reached latency _ => Duration.ofMillis latency
      | _ => 0 }

end Network

end Vigil
