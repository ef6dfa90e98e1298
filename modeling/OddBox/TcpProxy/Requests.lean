import Mathlib

/-!
What the proxy makes of the first bytes of a clear stream: `is_valid_http_request`,
`parse_http_request_fast` and `is_valid_http2_request`. The texts of their errors are
read by nobody and left out.
-/

namespace OddBox.TcpProxy

/-- `hyper::Version`. -/
inductive Version where
  | http09
  | http10
  | http11
  | http2
  | http3
  deriving DecidableEq, Repr

/-! ## Bytes -/

/-- A byte string of ASCII characters. -/
def ascii (text : String) : List UInt8 := text.toList.map fun c => UInt8.ofNat c.toNat

def contains (bytes pattern : List UInt8) : Bool := decide (pattern <:+: bytes)

/-- `u8::to_ascii_lowercase`. -/
def toAsciiLowercase (byte : UInt8) : UInt8 :=
  if 65 ≤ byte && byte ≤ 90 then byte + 32 else byte

/-- `u8::is_ascii_whitespace`. -/
def isAsciiWhitespace (byte : UInt8) : Bool := [9, 10, 12, 13, 32].contains byte

def eqIgnoreAsciiCase (a b : List UInt8) : Bool :=
  a.map toAsciiLowercase == b.map toAsciiLowercase

def containsIgnoreAsciiCase (haystack needle : List UInt8) : Bool :=
  contains (haystack.map toAsciiLowercase) (needle.map toAsciiLowercase)

def trimStart (bytes : List UInt8) : List UInt8 := bytes.dropWhile isAsciiWhitespace

def trimEnd (bytes : List UInt8) : List UInt8 := bytes.rdropWhile isAsciiWhitespace

/-! ## The version -/

def methods : List (List UInt8) :=
  ["GET ", "POST ", "PUT ", "DELETE ", "HEAD ", "OPTIONS ", "PATCH ", "CONNECT ", "TRACE "].map
    ascii

/-- The first of these texts that occurs anywhere decides the version. -/
def findVersion (bytes : List UInt8) : Option Version :=
  if contains bytes (ascii " HTTP/1.1\r\n") then some .http11
  else if contains bytes (ascii " HTTP/1.0\r\n") then some .http10
  else if contains bytes (ascii " HTTP/2.0\r\n") then some .http2
  else if contains bytes (ascii " HTTP/3.0\r\n") then some .http3
  else if contains bytes (ascii " HTTP/0.9\r\n") then some .http09
  else none

def isValidHttpRequest (bytes : List UInt8) : Option Version :=
  if methods.any fun method => method.isPrefixOf bytes then
    match findVersion bytes with
    | some version =>
      -- no headers are required in HTTP/0.9
      if contains bytes (ascii "\r\n\r\n") || version == .http09 then some version else none
    | none => none
  else none

/-- The first part of the preface is enough. -/
def isValidHttp2Request (bytes : List UInt8) : Bool := (ascii "PRI * HTTP/2.0").isPrefixOf bytes

/-! ## The host -/

structure ParsedHttpRequest where
  host : String
  isH2cUpgrade : Bool
  deriving DecidableEq, Repr

/-- The lines of a text, each with the line feed that ends it. -/
def lines : List UInt8 → List (List UInt8)
  | [] => []
  | byte :: bytes =>
    if byte = 10 then [byte] :: lines bytes
    else match lines bytes with
      | [] => [[byte]]
      | line :: rest => (byte :: line) :: rest

/-- Without the end of the line, and without blanks before it. -/
def trimLine (line : List UInt8) : List UInt8 :=
  trimStart (
    if [13, 10].isSuffixOf line then line.dropLast.dropLast
    else if [10].isSuffixOf line then line.dropLast
    else line)

def getHeaderValue (bytes : List UInt8) : String :=
  let value := trimEnd (bytes.dropWhile fun byte => byte == 58 || isAsciiWhitespace byte)
  (String.fromUTF8? ⟨value.toArray⟩).getD ""

/-- What the headers have shown so far. -/
structure HeaderScan where
  host : Option String
  hasUpgradeH2c : Bool
  hasConnectionUpgrade : Bool
  hasHttp2Settings : Bool
  deriving DecidableEq, Repr

/-- Whether the line starts with the name of a header, in any letter case. -/
def isHeader (name : String) (line : List UInt8) : Bool :=
  eqIgnoreAsciiCase (line.take name.length) (ascii name)

def HeaderScan.line (self : HeaderScan) (line : List UInt8) : HeaderScan :=
  if isHeader "Host:" line then { self with host := some (getHeaderValue (line.drop 5)) }
  else if isHeader "Upgrade:" line then
    let value := getHeaderValue (line.drop 8)
    if eqIgnoreAsciiCase value.toUTF8.toList (ascii "h2c") then { self with hasUpgradeH2c := true }
    else self
  else if isHeader "Connection:" line then
    let value := getHeaderValue (line.drop 11)
    if containsIgnoreAsciiCase value.toUTF8.toList (ascii "upgrade") then
      { self with hasConnectionUpgrade := true }
    else self
  else if isHeader "HTTP2-Settings:" line then { self with hasHttp2Settings := true }
  else self

/-- The lines before the first empty one are taken for headers, the request line too. -/
def scanHeaders (request : List UInt8) : HeaderScan :=
  (((lines request).takeWhile fun line => line != [13, 10] && line != [10]).map trimLine).foldl
    HeaderScan.line ⟨none, false, false, false⟩

def parseHttpRequestFast (request : List UInt8) : Option ParsedHttpRequest :=
  let scan := scanHeaders request
  scan.host.map fun host =>
    { host
      isH2cUpgrade := scan.hasUpgradeH2c && scan.hasConnectionUpgrade && scan.hasHttp2Settings }

end OddBox.TcpProxy
