/-!
# Failed exchanges

Why an exchange with a server failed: the request could not be built, it could not be sent or went
unanswered, it was sent on too often, the answer bears an error status, or its body broke off.

## Main definitions

* `Http.reason?` — the phrase that goes with an error status
* `Http.Failure` — why an exchange failed, with its wording
-/

namespace PipelineLint.Http

/-- The phrase that goes with an error status. -/
def reason? : Nat → Option String
  | 400 => some "Bad Request"
  | 401 => some "Unauthorized"
  | 402 => some "Payment Required"
  | 403 => some "Forbidden"
  | 404 => some "Not Found"
  | 405 => some "Method Not Allowed"
  | 406 => some "Not Acceptable"
  | 407 => some "Proxy Authentication Required"
  | 408 => some "Request Timeout"
  | 409 => some "Conflict"
  | 410 => some "Gone"
  | 411 => some "Length Required"
  | 412 => some "Precondition Failed"
  | 413 => some "Payload Too Large"
  | 414 => some "URI Too Long"
  | 415 => some "Unsupported Media Type"
  | 416 => some "Range Not Satisfiable"
  | 417 => some "Expectation Failed"
  | 418 => some "I'm a teapot"
  | 421 => some "Misdirected Request"
  | 422 => some "Unprocessable Entity"
  | 423 => some "Locked"
  | 424 => some "Failed Dependency"
  | 426 => some "Upgrade Required"
  | 428 => some "Precondition Required"
  | 429 => some "Too Many Requests"
  | 431 => some "Request Header Fields Too Large"
  | 451 => some "Unavailable For Legal Reasons"
  | 500 => some "Internal Server Error"
  | 501 => some "Not Implemented"
  | 502 => some "Bad Gateway"
  | 503 => some "Service Unavailable"
  | 504 => some "Gateway Timeout"
  | 505 => some "HTTP Version Not Supported"
  | 506 => some "Variant Also Negotiates"
  | 507 => some "Insufficient Storage"
  | 508 => some "Loop Detected"
  | 510 => some "Not Extended"
  | 511 => some "Network Authentication Required"
  | _ => none

/-- Whether a status blames the request. -/
def isClientError (status : Nat) : Bool := 400 ≤ status && status < 500

/-- Whether a status blames the server. -/
def isServerError (status : Nat) : Bool := 500 ≤ status && status < 600

/-- A status as it is shown in an error text. -/
def showStatus (status : Nat) : String :=
  let reason := (reason? status).getD "<unknown status code>"
  s!"{status} {reason}"

/-- Why a text is no URL. -/
inductive UrlFault where
  | noScheme
  | emptyHost
  | badPort
  | badIpv4
  | badIpv6
  | badDomain
  | badHostCharacter
  deriving DecidableEq, Repr

/-- The wording of a URL fault. -/
def UrlFault.text : UrlFault → String
  | .noScheme => "relative URL without a base"
  | .emptyHost => "empty host"
  | .badPort => "invalid port number"
  | .badIpv4 => "invalid IPv4 address"
  | .badIpv6 => "invalid IPv6 address"
  | .badDomain => "invalid international domain name"
  | .badHostCharacter => "invalid domain character"

/-- Why an exchange failed. A URL here is the normalized one. -/
inductive Failure where
  | badUrl (fault : UrlFault)
  | badScheme (url : String)
  | notSendable (url : String)
  | badHeaderName
  | badHeaderValue
  | unsent (url detail : String)
  | timedOut (url detail : String)
  | tooManyRedirects (url : String)
  | status (code : Nat) (url : String)
  | brokenBody (detail : String)
  deriving DecidableEq, Repr

/-- What is said of an answer that did not come in time. -/
def timedOutDetail : String := "operation timed out"

/-- The error text. -/
def Failure.message : Failure → String
  | .badUrl fault => s!"builder error: {fault.text}"
  | .badScheme url => s!"builder error for url ({url}): URL scheme is not allowed"
  | .notSendable url => s!"builder error for url ({url}): Parsed Url is not a valid Uri"
  | .badHeaderName => "builder error: invalid HTTP header name"
  | .badHeaderValue => "builder error: failed to parse header value"
  | .unsent url detail => s!"error sending request for url ({url}): {detail}"
  | .timedOut url detail => s!"error sending request for url ({url}): {detail}"
  | .tooManyRedirects url => s!"error following redirect for url ({url}): too many redirects"
  | .status code url =>
    if isClientError code then s!"HTTP status client error ({showStatus code}) for url ({url})"
    else s!"HTTP status server error ({showStatus code}) for url ({url})"
  | .brokenBody detail => s!"request or response body error: {detail}"

/-- Whether the request could not even be built. -/
def Failure.isBuilding : Failure → Bool
  | .badUrl _ | .badScheme _ | .notSendable _ | .badHeaderName | .badHeaderValue => true
  | _ => false

end PipelineLint.Http
