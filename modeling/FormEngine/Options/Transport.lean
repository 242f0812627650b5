import FormEngine.Options.Request
import FormEngine.Text.Encoding
import FormEngine.Value.Json
import FormEngine.Fault

/-!
Outcomes of requests: an answer with a status and a body, or a failure to get one. An answer counts
only if its status is one of success and its body is JSON.
-/

namespace FormEngine

inductive Body
  | data (v : Value)
  | text (s : String)

inductive TransportOutcome
  | answered (status : Nat) (body : Body)
  /-- no answer came -/
  | failed (message : String)
  /-- a fault that is none of the transport -/
  | broken (fault : Fault)

namespace TransportOutcome

/-- The standard reasons for statuses. -/
def reasons : List (Nat × String) := [
  (100, "Continue"), (101, "Switching Protocols"), (102, "Processing"), (103, "Early Hints"),
  (200, "OK"), (201, "Created"), (202, "Accepted"), (203, "Non-Authoritative Information"),
  (204, "No Content"), (205, "Reset Content"), (206, "Partial Content"), (207, "Multi-Status"),
  (208, "Already Reported"), (226, "IM Used"), (300, "Multiple Choices"),
  (301, "Moved Permanently"), (302, "Found"), (303, "See Other"), (304, "Not Modified"),
  (305, "Use Proxy"), (307, "Temporary Redirect"), (308, "Permanent Redirect"),
  (400, "Bad Request"), (401, "Unauthorized"), (402, "Payment Required"), (403, "Forbidden"),
  (404, "Not Found"), (405, "Method Not Allowed"), (406, "Not Acceptable"),
  (407, "Proxy Authentication Required"), (408, "Request Timeout"), (409, "Conflict"),
  (410, "Gone"), (411, "Length Required"), (412, "Precondition Failed"),
  (413, "Request Entity Too Large"), (414, "Request-URI Too Long"),
  (415, "Unsupported Media Type"), (416, "Requested Range Not Satisfiable"),
  (417, "Expectation Failed"), (418, "I'm a teapot"), (421, "Misdirected Request"),
  (422, "Unprocessable Entity"), (423, "Locked"), (424, "Failed Dependency"),
  (425, "Too Early"), (426, "Upgrade Required"), (428, "Precondition Required"),
  (429, "Too Many Requests"), (431, "Request Header Fields Too Large"),
  (451, "Unavailable For Legal Reasons"), (500, "Internal Server Error"),
  (501, "Not Implemented"), (502, "Bad Gateway"), (503, "Service Unavailable"),
  (504, "Gateway Timeout"), (505, "HTTP Version Not Supported"),
  (506, "Variant Also Negotiates"), (507, "Insufficient Storage"), (508, "Loop Detected"),
  (510, "Not Extended"), (511, "Network Authentication Required")]

def isSuccess (status : Nat) : Bool := 200 ≤ status && status < 300

def statusClass (status : Nat) : String :=
  match status / 100 with
  | 1 => "Informational response"
  | 3 => "Redirect response"
  | 4 => "Client error"
  | 5 => "Server error"
  | _ => "Invalid status code"

/-- The place where statuses are explained. -/
def statusPages : String := "developer.mozilla.org/en-US/docs/Web/HTTP/Status/"

def statusMessage (status : Nat) (url : String) : String :=
  let reason := (reasons.lookup status).getD ""
  s!"{statusClass status} '{status} {reason}' for url '{url}'\n" ++
    "For more information check: https:" ++ "//" ++ statusPages ++ toString status

/-- What an attempt comes to: data, a failure after which another may be made, or a fault. -/
inductive Attempt
  | succeeded (data : Value)
  | failed (message : String)
  | broken (fault : Fault)

/-- Answers are read as JSON within these bounds. -/
def bounds : Json.Bounds := ⟨970, Numeral.digitLimit⟩

/-- What the text of an answer comes to. -/
def read (s : String) : Attempt :=
  match Encoding.read s with
  | .error message => .failed message
  | .ok s =>
    match Json.readWithin bounds s with
    | .ok v => .succeeded v
    | .error .tooDeep => .broken .tooDeep
    | .error m => .failed (m.text s)

/-- A body as it arrives, unless it cannot be sent. -/
def arrived : Body → Except Unsendable Body
  | .data v => (sent v).map .data
  | .text s => .ok (.text s)

/-- What an outcome comes to. An answer to a request without an absolute address is of no use. -/
def attempt (outcome : TransportOutcome) (address : Address) : Attempt :=
  match outcome with
  | .failed message => .failed message
  | .broken fault => .broken fault
  | .answered status body =>
    match arrived body with
    | .error (.refused message) => .failed message
    | .error (.fault e) => .broken e
    | .ok body =>
      if !address.isAbsolute then
        .failed ("unknown url type: " ++ Quoted.quote address.text)
      else if !isSuccess status then .failed (statusMessage status address.text)
      else
        match body with
        | .data v => .succeeded v
        | .text s => read s

end TransportOutcome

end FormEngine
