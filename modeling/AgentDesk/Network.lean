import AgentDesk.Text.Pieces
/-!
# The network

A network answers requests one after another with the replies that are left in it, and remembers
what was asked. A request for which no reply is left finds nobody at the other end. The body of
a reply comes in chunks and may end too early.

## Main definitions

* `HttpRequest`, `HttpRequest.fault?`, `HttpReply`, `Network`.
* `Network.send`.
-/

namespace AgentDesk

/-- A request that was sent. -/
structure HttpRequest where
  method : String
  url : String
  headers : List (String × String)
  body : String
deriving Repr, BEq, DecidableEq, Inhabited

namespace HttpRequest

/-- Whether a character may stand in the name of a header. -/
def isNameChar (c : Char) : Bool :=
  (c.isAlphanum && c.toNat < 128) || "!#$%&'*+-.^_|~".toList.elem c || c.toNat == 96

/-- Whether a text can be the name of a header. -/
def isHeaderName (name : String) : Bool := !name.isEmpty && name.toList.all isNameChar

/-- Whether a text can be the value of a header. -/
def isHeaderValue (value : String) : Bool :=
  value.toList.all fun c => c == '\t' || (32 ≤ c.toNat && c.toNat != 127)

/-- Whether all headers have the form that is asked of them. -/
def hasHeaders (r : HttpRequest) : Bool :=
  r.headers.all fun (name, value) => isHeaderName name && isHeaderValue value

/-- The scheme of an address, in lower case, and what stands behind its colon. -/
def scheme? (url : String) : Option (String × List Char) :=
  match Text.cutAt? [':'] url.toList with
  | some (c :: name, rest) =>
    let inScheme (c : Char) : Bool :=
      c.toNat < 128 && (c.isAlphanum || c == '+' || c == '-' || c == '.')
    if c.isAlpha && name.all inScheme then some ((String.ofList (c :: name)).toLower, rest)
    else none
  | _ => none

/-- Whether what stands behind the scheme of an address can name the other end. -/
def namesHost (rest : List Char) : Bool :=
  let host := (rest.dropWhile (· == '/')).takeWhile fun c => !(c == '/' || c == '?' || c == '#')
  !host.isEmpty && host.all fun c => 32 < c.toNat && !"<>^|".toList.elem c

/-- What is said of a request that cannot be written down. -/
def unwritable : String := "builder error"

/-- Why a request cannot be written down: its address or one of its headers is malformed, or the
address has another scheme than those of the web. -/
def fault? (r : HttpRequest) : Option String :=
  match scheme? r.url with
  | none => some unwritable
  | some (scheme, rest) =>
    if !(scheme == "http" || scheme == "https") then some s!"{unwritable} for url ({r.url})"
    else if namesHost rest && r.hasHeaders then none
    else some unwritable

end HttpRequest

/-- A reply: its body in chunks, and whether the body is complete. -/
structure HttpReply where
  status : Nat
  headers : List (String × String)
  chunks : List ByteArray
  complete : Bool
deriving Inhabited

/-- The replies that are left and the requests that were sent. -/
structure Network where
  replies : List HttpReply
  requests : List HttpRequest
deriving Inhabited

namespace HttpReply

/-- Whether the status tells of success. -/
def isSuccess (r : HttpReply) : Bool := 200 ≤ r.status && r.status < 300

/-- The first header of a name, which is given in lower case. -/
def header? (r : HttpReply) (name : String) : Option String :=
  (r.headers.find? fun h => h.1.toLower == name).map (·.2)

/-- The bytes of the body. -/
def body (r : HttpReply) : ByteArray := r.chunks.foldl (· ++ ·) ByteArray.empty

end HttpReply

namespace Network

/-- The network in which nobody answers. -/
def silent : Network := ⟨[], []⟩

/-- What is said of a request that nobody answers. -/
def unanswered (url : String) : String := s!"error sending request for url ({url})"

/-- What is said of a body that ends too early. -/
def bodyCut : String := "error decoding response body"

/-- Sends a request. -/
def send (n : Network) (request : HttpRequest) : Except String HttpReply × Network :=
  match n.replies with
  | [] => (.error (unanswered request.url), n)
  | reply :: rest => (.ok reply, ⟨rest, n.requests ++ [request]⟩)

end Network

end AgentDesk
