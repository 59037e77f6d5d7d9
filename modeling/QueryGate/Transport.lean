import QueryGate.World

/-!
# Transports

The tools are served over the standard streams or over HTTP. The host should be a text and the
port an integer, but any values are handed on to the server of the tools and shown in the address.
An interrupt ends the serving in an orderly way; any other fault is passed on.
-/

namespace QueryGate

/-- A way of serving the tools. -/
inductive Transport where
  | stdio
  | http (host port path : Value)
  deriving Repr

namespace Transport

/-- The host that HTTP is served on by default: all addresses. -/
def defaultHost : String := "0.0.0.0"

def defaultPort : Int := 3000

/-- The path of the tools over HTTP by default. -/
def defaultPath : String := "/mcp"

/-- The address that clients use, over HTTP. -/
def url : Transport → Option String
  | .stdio => none
  | .http host port path => 
      some ("http://" ++ host.display ++ ":" ++ port.display ++ path.display)

/-- The channel of a transport's log records. -/
def channel : Transport → String
  | .stdio => Log.Channel.stdio
  | .http .. => Log.Channel.http

def parameters : Transport → Entries
  | .stdio => [("transport", .text "stdio")]
  | .http host port path =>
      [("transport", .text "streamable-http"), ("host", host), ("port", port), ("path", path)]

def startText (transport : Transport) : String :=
  match transport.url with
  | none => "Starting MCP server in stdio mode"
  | some address => "PostgreSQL MCP HTTP Server listening on " ++ address

/-- What is logged when serving is interrupted. -/
def stopText : Transport → String
  | .stdio => "Stdio server shutdown requested"
  | .http .. => "HTTP server shutdown requested"

/-- Serve the tools until the server ends or is interrupted. -/
def serve {σ : Type} (transport : Transport) : Act σ Unit := do
  Act.note .info transport.channel transport.startText
  (Act.serveTools transport.parameters).recover fun
    | .interrupt _ => Act.note .info transport.channel transport.stopText
    | fault => throw fault

end Transport

end QueryGate
