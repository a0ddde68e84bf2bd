import Orion.Http.Message

/-! # Responses made by the proxy itself -/

namespace Orion.Listeners

open Foundation Http

structure SyntheticHttpResponse where
  httpStatus : StatusCode
  body : Bytes
  closeConnection : Bool
  deriving DecidableEq

namespace SyntheticHttpResponse

def internalErrorWithMsg (message : Text) : SyntheticHttpResponse :=
  ⟨500, Ascii.toBytes message, true⟩

def forbidden (message : Text) : SyntheticHttpResponse :=
  ⟨403, Ascii.toBytes message, true⟩

def badRequest : SyntheticHttpResponse := ⟨400, [], true⟩

def gatewayTimeout : SyntheticHttpResponse := ⟨504, [], true⟩

def notFound : SyntheticHttpResponse := ⟨404, [], false⟩

def customError (status : StatusCode) : SyntheticHttpResponse := ⟨status, [], false⟩

/-- Clients of HTTP/1 are told when the connection will be closed. -/
def intoResponse (synthetic : SyntheticHttpResponse) (version : Version) :
    Response Body where
  status := synthetic.httpStatus
  version := version
  headers :=
    if synthetic.closeConnection ∧ (version = .http10 ∨ version = .http11) then
      [(.connection, Ascii.toBytes "close".toList)]
    else
      []
  body := .full synthetic.body

end SyntheticHttpResponse

inductive FilterDecision where
  | continue
  | reroute
  | directResponse (response : Response Body)
  deriving DecidableEq

end Orion.Listeners
