import Vigil.Text.Blank
/-!
The protocols a monitor can use.
-/

namespace Vigil

inductive CheckType where
  | http | https | tcp | webSocket
  deriving DecidableEq, Repr

namespace CheckType

def all : List CheckType := [http, https, tcp, webSocket]

/-- The name shown to people. -/
def label : CheckType → String
  | http => "HTTP"
  | https => "HTTPS"
  | tcp => "TCP"
  | webSocket => "WebSocket"

/-- The name written in documents. -/
def keyword : CheckType → String
  | http => "http"
  | https => "https"
  | tcp => "tcp"
  | webSocket => "websocket"

/-- Every name accepted in documents, the written one first. -/
def keywords : CheckType → List String
  | http => ["http", "HTTP"]
  | https => ["https", "HTTPS"]
  | tcp => ["tcp", "TCP"]
  | webSocket => ["websocket", "WebSocket", "ws", "wss"]

def ofKeyword? (s : String) : Option CheckType := all.find? fun t => t.keywords.contains s

/-- A protocol by its name or one of its schemes, in capitals or not. -/
def parse (s : String) : Except String CheckType :=
  match Text.lower (Text.trim s) with
  | "http" => .ok http
  | "https" => .ok https
  | "tcp" => .ok tcp
  | "ws" | "wss" | "websocket" => .ok webSocket
  | other => .error ("unsupported protocol: " ++ other)

theorem ofKeyword?_keyword (t : CheckType) : ofKeyword? t.keyword = some t := by
  cases t <;> decide

theorem mem_keywords_iff (t : CheckType) (s : String) :
    s ∈ t.keywords ↔ ofKeyword? s = some t := by
  have named : ∀ s ∈ t.keywords, ofKeyword? s = some t := by cases t <;> decide
  refine ⟨named s, fun h => ?_⟩
  simpa using List.find?_some h

end CheckType

end Vigil
