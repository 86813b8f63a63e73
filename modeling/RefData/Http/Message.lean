import RefData.Http.Headers
import RefData.Url.Address
import RefData.Url.Percent
set_option autoImplicit false

namespace RefData.Http

structure Request where
  method : String
  url : String
  headers : Headers := []
  body : Option String := none

structure Response where
  status : Nat
  headers : Headers := []
  body : String := ""

structure Delivery where
  method : String
  url : Url
  headers : Headers
  body : String

abbrev Transport := Delivery → Option Response

def Transport.unreachable : Transport := fun _ => none

def Response.isSuccess (r : Response) : Bool := 200 ≤ r.status && r.status < 300

def reasonPhrases : List (Nat × String) := [
  (100, "Continue"), (101, "Switching Protocols"), (102, "Processing"), (103, "Early Hints"),
  (200, "OK"), (201, "Created"), (202, "Accepted"), (203, "Non Authoritative Information"),
  (204, "No Content"), (205, "Reset Content"), (206, "Partial Content"), (207, "Multi-Status"),
  (208, "Already Reported"), (226, "IM Used"), (300, "Multiple Choices"),
  (301, "Moved Permanently"), (302, "Found"), (303, "See Other"), (304, "Not Modified"),
  (305, "Use Proxy"), (307, "Temporary Redirect"), (308, "Permanent Redirect"),
  (400, "Bad Request"), (401, "Unauthorized"), (402, "Payment Required"), (403, "Forbidden"),
  (404, "Not Found"), (405, "Method Not Allowed"), (406, "Not Acceptable"),
  (407, "Proxy Authentication Required"), (408, "Request Timeout"), (409, "Conflict"),
  (410, "Gone"), (411, "Length Required"), (412, "Precondition Failed"),
  (413, "Payload Too Large"), (414, "URI Too Long"), (415, "Unsupported Media Type"),
  (416, "Range Not Satisfiable"), (417, "Expectation Failed"), (418, "I'm a teapot"),
  (421, "Misdirected Request"), (422, "Unprocessable Entity"), (423, "Locked"),
  (424, "Failed Dependency"), (425, "Too Early"), (426, "Upgrade Required"),
  (428, "Precondition Required"), (429, "Too Many Requests"),
  (431, "Request Header Fields Too Large"), (451, "Unavailable For Legal Reasons"),
  (500, "Internal Server Error"), (501, "Not Implemented"), (502, "Bad Gateway"),
  (503, "Service Unavailable"), (504, "Gateway Timeout"), (505, "HTTP Version Not Supported"),
  (506, "Variant Also Negotiates"), (507, "Insufficient Storage"), (508, "Loop Detected"),
  (510, "Not Extended"), (511, "Network Authentication Required")]

def reason? (status : Nat) : Option String :=
  (reasonPhrases.find? (·.1 == status)).map Prod.snd

def base64Char (n : Nat) : Char :=
  if n < 26 then Char.ofNat (n + 'A'.toNat)
  else if n < 52 then Char.ofNat (n - 26 + 'a'.toNat)
  else if n < 62 then Char.ofNat (n - 52 + '0'.toNat)
  else if n = 62 then '+'
  else '/'

def base64 : List Nat → List Char
  | [] => []
  | [a] => [base64Char (a / 4), base64Char (a % 4 * 16), '=', '=']
  | [a, b] => [base64Char (a / 4), base64Char (a % 4 * 16 + b / 16), base64Char (b % 16 * 4), '=']
  | a :: b :: c :: rest =>
    base64Char (a / 4) :: base64Char (a % 4 * 16 + b / 16) :: base64Char (b % 16 * 4 + c / 64)
      :: base64Char (c % 64) :: base64 rest

def basicAuthorization? (url : Url) : Option String :=
  if url.username.isEmpty && url.password.isEmpty then none
  else
    let bytes := Url.percentDecode url.username.toList
      ++ ':'.toNat :: Url.percentDecode url.password.toList
    some ("Basic " ++ String.ofList (base64 bytes))

def authority (url : Url) : String :=
  String.ofList (((url.host.map Url.Host.text).getD []) ++ url.portText)

/-- A request as it goes out: to a web address only, without the user and the fragment of the
address, with the fields that every request has. -/
def Request.delivery? (r : Request) : Option Delivery := do
  let url ← (Url.parse r.url).toOption
  if url.scheme = "http" ∨ url.scheme = "https" then
    let headers := (r.headers.putDefault "accept" "*/*").putDefault "host" (authority url)
    let headers := match basicAuthorization? url with
      | some value => headers.putDefault "authorization" value
      | none => headers
    some {
      method := r.method
      url := { url with username := "", password := "", fragment := none }
      headers := headers
      body := r.body.getD "" }
  else none

end RefData.Http
