import InferenceBench.Server.Attempt

/-! # HTTP messages

The text of a request, and what a reply says as far as its bytes have come in. A reply ends where
its head says: after so many bytes, after an empty chunk, or with the connection. -/

namespace InferenceBench.Http

inductive Method where
  | get
  /-- Sends a JSON body. -/
  | post (body : List Char)
  deriving Repr, DecidableEq

def lineEnd : List Char := ['\r', '\n']

/-- The host and the port as the request names them. -/
def hostField (url : Url) : List Char :=
  url.host ++ match url.port with
    | some port => ':' :: Nat.toDigits 10 port
    | none => []

/-- The path and the query of a URL. -/
def target (url : Url) : List Char :=
  url.path.flatMap ('/' :: ·) ++ match url.query with
    | some query => '?' :: query
    | none => []

/-- The bytes of a request. -/
def requestBytes (method : Method) (url : Url) : List UInt8 :=
  let (name, fields, body) := match method with
    | .get => ("GET ".toList, [], [])
    | .post body =>
      let body := Utf8.encode body
      ("POST ".toList,
        ["content-type: application/json".toList,
          "content-length: ".toList ++ Nat.toDigits 10 body.length], body)
  let lines :=
    [name ++ target url ++ " HTTP/1.1".toList, "host: ".toList ++ hostField url,
      "accept: */*".toList, "connection: close".toList] ++ fields
  Utf8.encode (lines.flatMap (· ++ lineEnd) ++ lineEnd) ++ body

/-- Where the body of a reply ends. -/
inductive Extent where
  | bytes (count : Nat)
  | chunks
  | connection
  deriving Repr, DecidableEq

structure Head where
  status : Nat
  extent : Extent
  deriving Repr, DecidableEq

/-- The value of a field of the head, whose lines are in lower case. -/
def fieldValue? (name : String) (lines : List (List Char)) : Option (List Char) :=
  lines.findSome? fun line =>
    (name.toList ++ [':']).isPrefixOf? line |>.map Text.trim

/-- The head that the lines before the first empty one make. -/
def Head.ofText? (text : List Char) : Option Head :=
  match Text.partsBy (· = '\n') (text.filter (· ≠ '\r') |>.map Char.toLower) with
  | [] => none
  | start :: lines =>
    match Text.words start with
    | _ :: code :: _ =>
      (Url.digitsInBase? 10 code).map fun status =>
        { status
          extent :=
            if status = 204 || status = 304 then .bytes 0
            else if
                (fieldValue? "transfer-encoding" lines).any (Text.contains "chunked".toList) then
              .chunks
            else
              match (fieldValue? "content-length" lines).bind (Url.digitsInBase? 10) with
              | some count => .bytes count
              | none => .connection }
    | _ => none

/-- The body that chunks make, if the last one is there; `fuel` bounds their number. -/
def chunkedBody? : (fuel : Nat) → List Char → Option (List Char)
  | 0, _ => none
  | fuel + 1, text =>
    match Text.splitFirst? lineEnd text with
    | none => none
    | some (line, rest) =>
      match Url.digitsInBase? 16 (Text.trim (line.takeWhile (· ≠ ';'))) with
      | none | some 0 => some []
      | some size =>
        if rest.length < size then none
        else (chunkedBody? fuel (rest.drop (size + 2))).map (rest.take size ++ ·)

def ofBytes (bytes : List UInt8) : List Char := bytes.map fun byte => Char.ofNat byte.toNat

def toBytes (text : List Char) : List UInt8 := text.map fun c => UInt8.ofNat c.toNat

/-- The reply that the bytes make; none as long as more may come. -/
def reply? (isClosed : Bool) (bytes : List UInt8) : Option Reply :=
  match Text.splitFirst? (lineEnd ++ lineEnd) (ofBytes bytes) with
  | none => if isClosed then some .closed else none
  | some (head, rest) =>
    match Head.ofText? head with
    | none => some .closed
    | some ⟨status, extent⟩ =>
      let body? := match extent with
        | .bytes count => if count ≤ rest.length then some (rest.take count) else none
        | .chunks => chunkedBody? (rest.length + 1) rest
        | .connection => if isClosed then some rest else none
      match body? with
      | some body => some (.answer status (toBytes body))
      | none => if isClosed then some (.brokenBody status) else none

end InferenceBench.Http
