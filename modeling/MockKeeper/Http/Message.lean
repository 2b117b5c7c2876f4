import MockKeeper.Http.Header

/-! Methods, statuses and responses, and how a response is put together. -/

namespace MockKeeper

/-- A request method: any token. -/
structure Method where
  text : String
deriving DecidableEq, Repr

namespace Method

def ofBytes? (bytes : Bytes) : Option Method :=
  if bytes.isEmpty || !bytes.all isTokenByte then none
  else some ⟨String.ofList (bytes.map fun byte => Char.ofNat byte.toNat)⟩

def invalidMessage : String := "invalid HTTP method"

end Method

structure Status where
  code : Nat
deriving DecidableEq, Repr

namespace Status

/-- A status has three digits. -/
def ofCode? (code : Int) : Option Status :=
  if 100 ≤ code ∧ code ≤ 999 then some ⟨code.toNat⟩ else none

def invalidMessage : String := "invalid status code"

def ok : Status := ⟨200⟩
def badRequest : Status := ⟨400⟩
def internalServerError : Status := ⟨500⟩
def badGateway : Status := ⟨502⟩

def isSuccess (status : Status) : Bool := 200 ≤ status.code && status.code < 300

end Status

structure Response where
  status : Status
  headers : HeaderMap
  body : Bytes

structure ResponseHead where
  status : Status := .ok
  headers : HeaderMap := .empty

/-- A response that is put together step by step. Once a step has failed the others do nothing,
and the reason comes out at the end. -/
structure ResponseBuilder where
  head : Except String ResponseHead := .ok {}

namespace ResponseBuilder

def setStatus (builder : ResponseBuilder) (status : Except String Status) : ResponseBuilder :=
  ⟨builder.head.bind fun head => status.map fun status => { head with status }⟩

def changeHeaders (builder : ResponseBuilder) (change : HeaderMap → HeaderMap) : ResponseBuilder :=
  ⟨builder.head.map fun head => { head with headers := change head.headers }⟩

def finish (builder : ResponseBuilder) (body : Bytes) : Except String Response :=
  builder.head.map fun head => { status := head.status, headers := head.headers, body }

end ResponseBuilder

end MockKeeper
