import BriefSearch.Text.Basic
import BriefSearch.Text.Utf8
import BriefSearch.Transport.Basic

/-!
# Replies of a server

* **`Reply`** — a status, a content type and a body.
* **`Reply.text`** — the body of a successful reply.
* **`Reply.isImage`** — whether the reply is to a request for a picture.
-/

namespace BriefSearch

/-- The reply to a request. -/
structure Reply where
  status : Nat
  contentType : Option String
  body : List UInt8

namespace Reply

/-- The status codes with their phrases. -/
def reasonPhrases : List (Nat × String) :=
  [(100, "Continue"), (101, "Switching Protocols"), (102, "Processing"),
   (200, "OK"), (201, "Created"), (202, "Accepted"), (203, "Non Authoritative Information"),
   (204, "No Content"), (205, "Reset Content"), (206, "Partial Content"), (207, "Multi-Status"),
   (208, "Already Reported"), (226, "IM Used"),
   (300, "Multiple Choices"), (301, "Moved Permanently"), (302, "Found"), (303, "See Other"),
   (304, "Not Modified"), (305, "Use Proxy"), (307, "Temporary Redirect"),
   (308, "Permanent Redirect"),
   (400, "Bad Request"), (401, "Unauthorized"), (402, "Payment Required"), (403, "Forbidden"),
   (404, "Not Found"), (405, "Method Not Allowed"), (406, "Not Acceptable"),
   (407, "Proxy Authentication Required"), (408, "Request Timeout"), (409, "Conflict"),
   (410, "Gone"), (411, "Length Required"), (412, "Precondition Failed"),
   (413, "Payload Too Large"), (414, "URI Too Long"), (415, "Unsupported Media Type"),
   (416, "Range Not Satisfiable"), (417, "Expectation Failed"), (418, "I'm a teapot"),
   (421, "Misdirected Request"), (422, "Unprocessable Entity"), (423, "Locked"),
   (424, "Failed Dependency"), (425, "Too Early"), (426, "Upgrade Required"),
   (428, "Precondition Required"), (429, "Too Many Requests"),
   (431, "Request Header Fields Too Large"), (451, "Unavailable For Legal Reasons"),
   (500, "Internal Server Error"), (501, "Not Implemented"), (502, "Bad Gateway"),
   (503, "Service Unavailable"), (504, "Gateway Timeout"), (505, "HTTP Version Not Supported"),
   (506, "Variant Also Negotiates"), (507, "Insufficient Storage"), (508, "Loop Detected"),
   (510, "Not Extended"), (511, "Network Authentication Required")]

/-- The phrase of a status code. -/
def reasonPhrase (status : Nat) : String :=
  ((reasonPhrases.find? (·.1 = status)).map (·.2)).getD "<unknown status code>"

/-- Holds for the status codes of success. -/
def isSuccess (reply : Reply) : Bool :=
  200 ≤ reply.status && reply.status < 300

/-- The body of a successful reply as text; any other reply is a fault. -/
def text (reply : Reply) : Except TransferFault String :=
  let body := Utf8.decodeLossy reply.body
  if reply.isSuccess then .ok body
  else .error (.status reply.status (reasonPhrase reply.status) body)

/-- Holds for the characters that a readable header value consists of. -/
def isHeaderChar (c : Char) : Bool :=
  c = '\t' || (32 ≤ c.toNat && c.toNat < 127)

/-- Holds for a content type that begins with `image` in upper or lower case. -/
def isImageType (contentType : String) : Bool :=
  contentType.toList.all isHeaderChar &&
    "image".toList.isPrefixOf ((Text.trim contentType).toList.map Char.toLower)

/-- Holds for a successful reply whose content is a picture. -/
def isImage (reply : Reply) : Bool :=
  reply.isSuccess && reply.contentType.any isImageType

end Reply

end BriefSearch
