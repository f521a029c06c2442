import HyperEvolve.Artifact.Wire
import HyperEvolve.Service.Endpoint
import HyperEvolve.Service.Log
import HyperEvolve.Text.Encoding

/-!
# Delivery of artifacts

An artifact is delivered by exactly one request. The service is a function from requests to
replies, so what is sent and what comes back are values.
-/

namespace HyperEvolve

/-- A request to the service; the body is a document. -/
structure Request where
  url : String
  body : String
  timeout : Option Float

def Request.method : String := "POST"

def Request.contentType : String := "application/json"

/-- What a request leads to: a response, or a failure below it, named by its kind. -/
inductive Reply where
  | response (status : Nat) (body : Bytes)
  | failure (kind message : String)
deriving DecidableEq, Repr

abbrev Service := Request → Reply

/-- The standard phrase for a status, empty for one without a phrase. -/
def reasonPhrase : Nat → String
  | 100 => "Continue"
  | 101 => "Switching Protocols"
  | 102 => "Processing"
  | 103 => "Early Hints"
  | 200 => "OK"
  | 201 => "Created"
  | 202 => "Accepted"
  | 203 => "Non-Authoritative Information"
  | 204 => "No Content"
  | 205 => "Reset Content"
  | 206 => "Partial Content"
  | 207 => "Multi-Status"
  | 208 => "Already Reported"
  | 226 => "IM Used"
  | 300 => "Multiple Choices"
  | 301 => "Moved Permanently"
  | 302 => "Found"
  | 303 => "See Other"
  | 304 => "Not Modified"
  | 305 => "Use Proxy"
  | 307 => "Temporary Redirect"
  | 308 => "Permanent Redirect"
  | 400 => "Bad Request"
  | 401 => "Unauthorized"
  | 402 => "Payment Required"
  | 403 => "Forbidden"
  | 404 => "Not Found"
  | 405 => "Method Not Allowed"
  | 406 => "Not Acceptable"
  | 407 => "Proxy Authentication Required"
  | 408 => "Request Timeout"
  | 409 => "Conflict"
  | 410 => "Gone"
  | 411 => "Length Required"
  | 412 => "Precondition Failed"
  | 413 => "Request Entity Too Large"
  | 414 => "Request-URI Too Long"
  | 415 => "Unsupported Media Type"
  | 416 => "Requested Range Not Satisfiable"
  | 417 => "Expectation Failed"
  | 418 => "I'm a teapot"
  | 421 => "Misdirected Request"
  | 422 => "Unprocessable Entity"
  | 423 => "Locked"
  | 424 => "Failed Dependency"
  | 425 => "Too Early"
  | 426 => "Upgrade Required"
  | 428 => "Precondition Required"
  | 429 => "Too Many Requests"
  | 431 => "Request Header Fields Too Large"
  | 451 => "Unavailable For Legal Reasons"
  | 500 => "Internal Server Error"
  | 501 => "Not Implemented"
  | 502 => "Bad Gateway"
  | 503 => "Service Unavailable"
  | 504 => "Gateway Timeout"
  | 505 => "HTTP Version Not Supported"
  | 506 => "Variant Also Negotiates"
  | 507 => "Insufficient Storage"
  | 508 => "Loop Detected"
  | 510 => "Not Extended"
  | 511 => "Network Authentication Required"
  | _ => ""

/-- Why an artifact was not delivered, or its answer not understood. -/
inductive DeliveryFailure where
  /-- Refused with a status, or lost below the service when there is none. -/
  | transmission (status : Option Nat) (description : String)
  | invalidEndpoint (fault : Endpoint.Fault)
  /-- Answered, but the address names no scheme. -/
  | unknownScheme (url : String)
  | undecodable (fault : DecodeFault)
  | longInteger (digits : Nat)
deriving DecidableEq, Repr

def DeliveryFailure.message : DeliveryFailure → String
  | .transmission (some status) description => s!"HTTP {status}: {description}"
  | .transmission none description => s!"Transport error: {description}"
  | .invalidEndpoint fault => fault.message
  | .unknownScheme url => "unknown url type: " ++ quotedString url
  | .undecodable fault => fault.message
  | .longInteger digits => Decimal.tooManyDigits digits

/-- The outcome of a delivery with the requests made and the records written on the way. -/
structure Delivery where
  outcome : Except DeliveryFailure Document
  requests : List Request
  log : List LogRecord

def isSuccess (status : Nat) : Bool := 200 ≤ status && status ≤ 299

/-- The text of a body, with U+FFFD for what is no text. -/
def bodyText (body : Bytes) : String := String.ofList (Utf8.decodeLossy body)

/-- The document in a body, or its text when it holds none. -/
def bodyDocument (body : Bytes) : Except DeliveryFailure Document :=
  match Encoding.decode body with
  | .error fault => .error (.undecodable fault)
  | .ok text =>
    match Document.read text with
    | .ok d => .ok d.merged
    | .error (.form _ _) => .ok (Document.ofString (bodyText body))
    | .error (.longInteger digits) => .error (.longInteger digits)

namespace Delivery

def record (level : LogLevel) (message : String) : LogRecord := ⟨level, deliveryLogger, message⟩

/-- The record of an answered request itself. -/
def exchange (r : Request) (status : Nat) : LogRecord :=
  ⟨.info, exchangeLogger, "HTTP Request: " ++ Request.method ++ s!" {r.url} " ++
    s!"\"HTTP/1.1 {status} " ++ reasonPhrase status ++ "\""⟩

def ofReply (endpoint : String) (request : Request) : Reply → Delivery
  | .failure kind message =>
    ⟨.error (.transmission none (if message.isEmpty then kind else message)), [request],
      [record .warning s!"Sending artifact to {endpoint} failed: {message}"]⟩
  | .response status body =>
    if !Endpoint.hasScheme request.url then ⟨.error (.unknownScheme request.url), [request], []⟩
    else if isSuccess status then
      ⟨bodyDocument body, [request],
        [exchange request status, record .info s!"Artifact delivered to {endpoint} ({status})"]⟩
    else
      let text := bodyText body
      ⟨.error (.transmission (some status) (if text.isEmpty then reasonPhrase status else text)),
        [request], [exchange request status,
          record .warning s!"Execution service at {endpoint} returned {status}"]⟩

end Delivery

/-- Delivers an artifact to an endpoint by one request; none is made when the endpoint is no
address. -/
def deliver (service : Service) (endpoint : Text) (timeout : Option Float) (a : Artifact) :
    Delivery :=
  match Endpoint.normalize endpoint with
  | .error fault => ⟨.error (.invalidEndpoint fault), [], []⟩
  | .ok url =>
    let request : Request := ⟨url.toString, a.serialize, timeout⟩
    Delivery.ofReply endpoint.toString request (service request)

end HyperEvolve
