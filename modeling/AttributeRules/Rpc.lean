import AttributeRules.Failure
import AttributeRules.Json.Printer

/-! JSON-RPC 2.0 responses.

A response answers no request in particular, so its id is null. Application errors count down from -32000. -/

namespace AttributeRules.Rpc

/-- The members that all responses have, around the one that tells them apart. -/
def response (name : String) (value : Json) : Json :=
  .object [("jsonrpc", .text "2.0"), (name, value), ("id", .null)]

/-- The response of a success. -/
def success (result : Json) : Json := response "result" result

/-- The code of an error response for an exit code. -/
def errorCode (exitCode : Int) : Int := -32000 - exitCode

/-- The response of an error; the data may be left out. -/
def error (exitCode : Int) (message : String) (data : Option Json) : Json :=
  response "error" (.object ([("code", .integer (errorCode exitCode)), ("message", .text message)] ++
    match data with
    | some d => [("data", d)]
    | none => []))

/-- The data of an error: the name of its kind and, if there are any, suggestions. -/
def errorData (kind : String) (suggestions : List String) : Json :=
  .object ([("kind", .text kind)] ++ if suggestions.isEmpty then [] else [("suggestions", .texts suggestions)])

/-- The response that reports a failure. -/
def ofFailure (f : Failure) : Json := error f.exitCode f.message (some (errorData f.kind.name f.suggestions))

end AttributeRules.Rpc
