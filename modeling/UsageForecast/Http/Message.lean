import UsageForecast.Json.Codec

/-!
# Requests and responses

What back ends are asked over the network, and what they answer.  A server is
the function from requests to responses; where it answers nothing it cannot be
reached.
-/

namespace UsageForecast.Http

inductive Method where
  | get
  | patch
deriving DecidableEq, Repr, Inhabited

def Method.name : Method → String
  | .get => "GET"
  | .patch => "PATCH"

/-- A request: a path, the parameters of its query, and the change that a
patch merges. -/
structure Request where
  method : Method
  path : String
  parameters : List (String × String)
  change : Option Json
deriving Inhabited

namespace Request

def read (path : String) : Request := ⟨.get, path, [], none⟩

/-- A request that merges a change into what is found under a path. -/
def merge (path : String) (change : Json) : Request :=
  ⟨.patch, path, [], some change⟩

def display (request : Request) : String :=
  s!"{request.method.name} {request.path}"

def contentType? (request : Request) : Option String :=
  request.change.map fun _ => "application/merge-patch+json"

/-- What a request says: of its parameters the values, and nothing where it
has none. -/
def toJson (request : Request) : Json :=
  .object ([("method", .string request.method.name),
      ("path", .string request.path)]
    ++ (request.parameters.map fun (_, value) => ("query", .string value))
    ++ (request.contentType?.map fun type =>
      ("contentType", .string type)).toList
    ++ (request.change.map fun change => ("body", change)).toList)

end Request

structure Response where
  status : Nat
  body : String
deriving DecidableEq, Repr, Inhabited

/-- What a server answers; nothing where it cannot be reached. -/
abbrev Server := Request → Option Response

def Server.unreachable : Server := fun _ => none

/-- The server with a fixed response for each of some paths, and for no
other. -/
def Server.ofResponses (responses : SortedMap String Response) : Server :=
  fun request =>
    some ((responses.find? request.path).getD ⟨404, ""⟩)

namespace Status

def reasons : List (Nat × String) := [
  (100, "Continue"), (101, "Switching Protocols"), (102, "Processing"),
  (200, "OK"), (201, "Created"), (202, "Accepted"),
  (203, "Non Authoritative Information"), (204, "No Content"),
  (205, "Reset Content"), (206, "Partial Content"), (207, "Multi-Status"),
  (208, "Already Reported"), (226, "IM Used"),
  (300, "Multiple Choices"), (301, "Moved Permanently"), (302, "Found"),
  (303, "See Other"), (304, "Not Modified"), (305, "Use Proxy"),
  (307, "Temporary Redirect"), (308, "Permanent Redirect"),
  (400, "Bad Request"), (401, "Unauthorized"), (402, "Payment Required"),
  (403, "Forbidden"), (404, "Not Found"), (405, "Method Not Allowed"),
  (406, "Not Acceptable"), (407, "Proxy Authentication Required"),
  (408, "Request Timeout"), (409, "Conflict"), (410, "Gone"),
  (411, "Length Required"), (412, "Precondition Failed"),
  (413, "Payload Too Large"), (414, "URI Too Long"),
  (415, "Unsupported Media Type"), (416, "Range Not Satisfiable"),
  (417, "Expectation Failed"), (418, "I'm a teapot"),
  (421, "Misdirected Request"), (422, "Unprocessable Entity"),
  (423, "Locked"), (424, "Failed Dependency"), (426, "Upgrade Required"),
  (428, "Precondition Required"), (429, "Too Many Requests"),
  (431, "Request Header Fields Too Large"),
  (451, "Unavailable For Legal Reasons"),
  (500, "Internal Server Error"), (501, "Not Implemented"),
  (502, "Bad Gateway"), (503, "Service Unavailable"),
  (504, "Gateway Timeout"), (505, "HTTP Version Not Supported"),
  (506, "Variant Also Negotiates"), (507, "Insufficient Storage"),
  (508, "Loop Detected"), (510, "Not Extended"),
  (511, "Network Authentication Required")]

def display (status : Nat) : String :=
  let reason :=
    (reasons.find? fun entry => entry.1 == status).elim
      "<unknown status code>" (·.2)
  s!"{status} {reason}"

def isSuccess (status : Nat) : Bool := 200 ≤ status && status < 300

/-- Whether a status code reports an error of either side. -/
def isError (status : Nat) : Bool := 400 ≤ status && status < 600

end Status

end UsageForecast.Http
