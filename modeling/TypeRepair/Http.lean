import TypeRepair.Json.Basic
import TypeRepair.Text.Utf8

/-!
# Requests and replies

Posting a JSON body to a service, and what may come back: nothing, or a reply with a status whose
body may be cut short. How the bytes of a body are read as text, by the charset of its content type,
is left to the network library: a reply comes with that text, and `Delivery.DecodedBy` says which
decoder it is from.

* `isSendable_append`: a header value is sendable if its parts are.
-/

namespace TypeRepair.Http

/-- A request that posts a JSON body. -/
structure Request where
  host : String
  path : String
  /-- Names in lower case with their values. -/
  headers : List (String × String)
  body : Json String

/-- The address of a request. -/
def Request.url (request : Request) : String :=
  "https://" ++ request.host ++ request.path

/-- What a service answers. -/
structure Reply where
  status : Nat
  contentType : String
  body : Bytes
  /-- Whether all announced bytes of the body arrived. -/
  complete : Bool
  /-- What the network library reads the body as, by the charset of the content type. -/
  text : String
deriving DecidableEq, Repr

/-- A whole reply of JSON in UTF-8, the charset of JSON. -/
def Reply.ofText (status : Nat) (text : String) : Reply where
  status := status
  contentType := "application/json"
  body := Text.encode text
  complete := true
  text := text

/-- What comes of sending a request. -/
inductive Delivery
  /-- No connection, or one that was closed without an answer. -/
  | unanswered
  | answered (reply : Reply)
deriving DecidableEq, Repr

/-- A byte that may stand in a header value: no control other than the tab, and not 0x7F. -/
def isSendableByte (b : UInt8) : Bool :=
  b == 0x09 || (0x20 ≤ b && b != 0x7F)

/-- A text that may be sent as a header value. -/
def isSendable (value : String) : Bool :=
  (Text.encode value).all isSendableByte

/-- Whether a request can be put on the wire. -/
def Request.isSendable (request : Request) : Bool :=
  request.headers.all fun header => Http.isSendable header.2

/-- The statuses of success. -/
def isSuccess (status : Nat) : Bool :=
  200 ≤ status && status < 300

/-- The standard phrases of the status codes. -/
def reasons : List (Nat × String) :=
  [(100, "Continue"), (101, "Switching Protocols"), (102, "Processing"),
    (103, "Early Hints"),
    (200, "OK"), (201, "Created"), (202, "Accepted"), (203, "Non Authoritative Information"),
    (204, "No Content"), (205, "Reset Content"), (206, "Partial Content"), (207, "Multi-Status"),
    (208, "Already Reported"), (226, "IM Used"),
    (300, "Multiple Choices"), (301, "Moved Permanently"), (302, "Found"), (303, "See Other"),
    (304, "Not Modified"), (305, "Use Proxy"), (307, "Temporary Redirect"),
    (308, "Permanent Redirect"),
    (400, "Bad Request"), (401, "Unauthorized"), (402, "Payment Required"), (403, "Forbidden"),
    (404, "Not Found"), (405, "Method Not Allowed"), (406, "Not Acceptable"),
    (407, "Proxy Authentication Required"), (408, "Request Timeout"), (409, "Conflict"),
    (410, "Gone"), (411, "Length Required"), (412, "Precondition Failed"),
    (413, "Payload Too Large"), (414, "URI Too Long"), (415, "Unsupported Media Type"),
    (416, "Range Not Satisfiable"), (417, "Expectation Failed"), (418, "I'm a teapot"),
    (421, "Misdirected Request"), (422, "Unprocessable Entity"), (423, "Locked"),
    (424, "Failed Dependency"), (425, "Too Early"), (426, "Upgrade Required"),
    (428, "Precondition Required"), (429, "Too Many Requests"),
    (431, "Request Header Fields Too Large"), (451, "Unavailable For Legal Reasons"),
    (500, "Internal Server Error"), (501, "Not Implemented"), (502, "Bad Gateway"),
    (503, "Service Unavailable"), (504, "Gateway Timeout"), (505, "HTTP Version Not Supported"),
    (506, "Variant Also Negotiates"), (507, "Insufficient Storage"), (508, "Loop Detected"),
    (510, "Not Extended"), (511, "Network Authentication Required")]

/-- A status code with its phrase. -/
def statusText (status : Nat) : String :=
  toString status ++ " " ++ (reasons.lookup status).getD "<unknown status code>"

/-- Replies with these statuses have no body. -/
def isBodiless (status : Nat) : Bool :=
  status == 204 || status == 304

/-- The bytes of the body as they arrive, and whether they are all there. -/
def Reply.received (reply : Reply) : Option Bytes :=
  if isBodiless reply.status then some []
  else if reply.complete then some reply.body
  else none

/-- The text of the body, empty if it is cut short. -/
def Reply.wholeText (reply : Reply) : String :=
  if reply.received.isSome then reply.text else ""

/-- The text of a reply, if there is one with its body whole, is what a decoder reads the body as
that arrived. The decoder is given the content type and the bytes. -/
def Delivery.DecodedBy (decode : String → Bytes → String) : Delivery → Prop
  | unanswered => True
  | answered reply =>
    ∀ body, reply.received = some body → reply.text = decode reply.contentType body

theorem isSendable_append (s t : String) :
    isSendable (s ++ t) = (isSendable s && isSendable t) := by
  simp [isSendable, Text.encode]

end TypeRepair.Http
