/-
# Failures

What a peer is told when a message cannot be answered: a code, a message, and
data that may be null but is never left out.
-/

import LanguageServer.Json.Basic

namespace LanguageServer.Rpc

/-- The codes that peers agree on. -/
inductive ErrorCode
  | parseError
  | invalidRequest
  | methodNotFound
  | invalidParams
  | internalError
  | serverError
  | serverNotInitialized
  | unknownErrorCode
  | requestCancelled
  | contentModified
  deriving DecidableEq, Repr

/-- The number of a code. -/
def ErrorCode.toInt : ErrorCode → Int
  | .parseError => -32700
  | .invalidRequest => -32600
  | .methodNotFound => -32601
  | .invalidParams => -32602
  | .internalError => -32603
  | .serverError => -32000
  | .serverNotInitialized => -32002
  | .unknownErrorCode => -32001
  | .requestCancelled => -32800
  | .contentModified => -32801

/-- Why a message is not answered with a result. -/
structure Failure where
  code : Int
  message : Text
  data : Json := .null
  deriving Repr

/-- A failure without data. -/
def ErrorCode.failure (code : ErrorCode) (message : Text) : Failure :=
  ⟨code.toInt, message, .null⟩

/-- An error object. -/
def errorObject (code message data : Json) : Json :=
  .obj [("code", code), ("message", message), ("data", data)]

/-- The error object of a failure. -/
def Failure.toJson (failure : Failure) : Json :=
  errorObject (.int failure.code) (.str failure.message) failure.data

end LanguageServer.Rpc
