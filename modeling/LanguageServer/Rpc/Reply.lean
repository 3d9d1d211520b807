/-
# Outgoing messages

The bodies of the messages that are sent: a reply with a result, a reply with a
failure, and a notification.
-/

import LanguageServer.Rpc.Failure
import LanguageServer.Rpc.Message

namespace LanguageServer.Rpc

/-- The body of a reply with a result. -/
def success (id result : Json) : Json :=
  .obj [("jsonrpc", .str version), ("id", id), ("result", result)]

/-- The body of a reply with an error object. -/
def errorReply (id error : Json) : Json :=
  .obj [("jsonrpc", .str version), ("id", id), ("error", error)]

/-- The body of a reply with a failure. -/
def refusal (id : Json) (failure : Failure) : Json :=
  errorReply id failure.toJson

/-- The body of a notification whose method may be any value. -/
def announcement (method params : Json) : Json :=
  .obj [("jsonrpc", .str version), ("method", method), ("params", params)]

/-- The body of a notification. -/
def notification (method : Text) (params : Json) : Json :=
  announcement (.str method) params

end LanguageServer.Rpc
