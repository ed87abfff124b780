import QueryShell.Connection.HostName
import QueryShell.Decimal.Notation
import QueryShell.Decimal.Reading
import QueryShell.Fault
import QueryShell.Text.Blank
import QueryShell.Text.Encoding
import QueryShell.Text.Quoted

namespace QueryShell.Connection

structure Url where
  scheme : String
  userinfo : List Char
  host : List Char
  port : Option Int
  path : List Char
  query : Option (List Char)
  fragment : Option (List Char)
  deriving Repr

namespace Url

def invalid (message : String) : Fault :=
  .other "InvalidURL" message

def isAsciiControl (c : Char) : Bool :=
  c.toNat < 0x20 || c.toNat == 0x7f

def isUnreserved (c : Char) : Bool :=
  c.isAlphanum || c == '-' || c == '.' || c == '_' || c == '~'

def isSafeBut (unsafe_ : List Char) (c : Char) : Bool :=
  0x20 < c.toNat && c.toNat < 0x7f && !unsafe_.contains c

def queryUnsafe : List Char := ['"', '#', '<', '>']

def pathUnsafe : List Char := queryUnsafe ++ ['?', '\x60', '\x7b', '\x7d']

def userinfoUnsafe : List Char :=
  pathUnsafe ++ ['/', ';', '=', '@', '[', '\\', ']', '^', '|']

def fragmentUnsafe : List Char := ['"', '<', '>', '\x60']

def hostSafe : List Char :=
  "!$&'()*+,;=".toList ++ ['"', '\x60', '\x7b', '\x7d', '%', '|', '\\']

def upperHex (n : Nat) : List Char :=
  (Text.hexDigits 2 n).map Char.toUpper

def percentEncoded (c : Char) : List Char :=
  (Text.encodeUtf8 (String.singleton c)).flatMap fun b => '%' :: upperHex b.toNat

/-- Writes characters that are not safe by the numbers of their bytes. What is written so already
is kept. -/
def quote (isSafe : Char → Bool) : List Char → List Char
  | [] => []
  | '%' :: a :: b :: cs =>
      if (Text.hexValue? a).isSome && (Text.hexValue? b).isSome then
        '%' :: a :: b :: quote isSafe cs
      else (if isSafe '%' then ['%'] else percentEncoded '%') ++ quote isSafe (a :: b :: cs)
  | c :: cs =>
      (if isUnreserved c || isSafe c then [c] else percentEncoded c) ++ quote isSafe cs
termination_by cs => cs.length

def normalSteps (taken : List (List Char)) : List (List Char) → List (List Char)
  | [] => taken.reverse
  | step :: steps =>
      if step = ['.'] then normalSteps taken steps
      else if step = ['.', '.'] then
        match taken with
        | [] => normalSteps [] steps
        | [[]] => normalSteps [[]] steps
        | _ :: before => normalSteps before steps
      else normalSteps (step :: taken) steps

def normalPath (path : List Char) : List Char :=
  Text.joinWith ['/'] (normalSteps [] (Text.splitAt '/' path))

def isIPv4Part (cs : List Char) : Bool :=
  !cs.isEmpty && cs.length ≤ 3 && cs.all Char.isDigit &&
    (cs.length == 1 || cs.head? != some '0') && Text.decimalValue cs ≤ 255

def isIPv4 (cs : List Char) : Bool :=
  let parts := Text.splitAt '.' cs
  parts.length == 4 && parts.all isIPv4Part

def looksLikeNumbers (cs : List Char) : Bool :=
  let parts := Text.splitAt '.' cs
  parts.length == 4 && parts.all fun part => !part.isEmpty && part.all Char.isDigit

def isHextet (cs : List Char) : Bool :=
  !cs.isEmpty && cs.length ≤ 4 && cs.all fun c => (Text.hexValue? c).isSome

/-- The parts between the colons, once an IPv4 address at the end counts as two. -/
def hextets? (cs : List Char) : Option (List (List Char)) :=
  let parts := Text.splitAt ':' cs
  match parts.getLast? with
  | some last =>
      if last.contains '.' then
        if isIPv4 last then some (parts.dropLast ++ [['0'], ['0']]) else none
      else some parts
  | none => none

def gapFits (parts : List (List Char)) : Bool :=
  let inner := parts.tail.dropLast
  match inner.findIdx? List.isEmpty with
  | none =>
      parts.length == 8 && parts.all isHextet
  | some i =>
      let gap := i + 1
      let high := parts.take gap
      let low := parts.drop (gap + 1)
      let endsOpen (side : List (List Char)) : Bool := side == [[]]
      let high := if endsOpen high then [] else high
      let low := if endsOpen low then [] else low
      (high ++ low).all isHextet && high.length + low.length ≤ 7

def isIPv6 (cs : List Char) : Bool :=
  let address := cs.takeWhile (· != '%')
  let scope := cs.drop address.length
  let scopeFits := scope.isEmpty || (1 < scope.length && !scope.tail.contains '%')
  match hextets? address with
  | some parts => scopeFits && 3 ≤ parts.length && parts.length ≤ 9 && gapFits parts
  | none => false

def inBrackets (cs : List Char) : Bool :=
  cs.head? == some '[' && cs.getLast? == some ']' && 2 ≤ cs.length

def normalHost (host : List Char) : Except Fault (List Char) :=
  if host.isEmpty then .ok []
  else if looksLikeNumbers host then
    if isIPv4 host then .ok host
    else .error (invalid ("Invalid IPv4 address: " ++ Text.quoted (String.ofList host)))
  else if inBrackets host then
    if isIPv6 host.tail.dropLast then .ok host.tail.dropLast
    else .error (invalid ("Invalid IPv6 address: " ++ Text.quoted (String.ofList host)))
  else if host.all fun c => c.toNat < 0x80 then
    .ok (quote hostSafe.contains (host.map Char.toLower))
  else
    match asciiName? host with
    | some name => .ok name
    | none => .error (invalid ("Invalid IDNA hostname: " ++ Text.quoted (String.ofList host)))

def defaultPort? (scheme : String) : Option Int :=
  [("http", (80 : Int)), ("https", 443)].lookup scheme

/-- An integer as a port states it: blanks around it, a sign and single underscores are fine. -/
def portNumber? (cs : List Char) : Option Int :=
  let (negative, digits) := Decimal.takeSign (Text.trim cs)
  match Decimal.dropUnderscores? false digits with
  | some plain =>
      if !plain.isEmpty && plain.all Text.isDigit && plain.length ≤ Decimal.digitLimit then
        some (Decimal.signedInt negative (Text.decimalValue plain))
      else none
  | none => none

def normalPort (scheme : String) (port : List Char) : Except Fault (Option Int) :=
  if port.isEmpty then .ok none
  else
    match portNumber? port with
    | some n => .ok (if defaultPort? scheme == some n then none else some n)
    | none => .error (invalid ("Invalid port: " ++ Text.quoted (String.ofList port)))

def splitUserinfo (authority : List Char) : List Char × List Char :=
  let host := (authority.reverse.takeWhile (· != '@')).reverse
  if host.length == authority.length then ([], authority)
  else (authority.take (authority.length - host.length - 1), host)

def splitPort (cs : List Char) : List Char × List Char :=
  let bracketed := (cs.reverse.dropWhile (· != ']')).reverse
  let host :=
    if cs.head? == some '[' && !bracketed.isEmpty then bracketed
    else cs.takeWhile (· != ':')
  let rest := cs.drop host.length
  (host, if rest.head? == some ':' then rest.tail else rest)

def cutAt (mark : Char) (cs : List Char) : List Char × Option (List Char) :=
  let before := cs.takeWhile (· != mark)
  (before, if before.length == cs.length then none else some (cs.drop (before.length + 1)))

def isAuthorityEnd (c : Char) : Bool :=
  c == '/' || c == '?' || c == '#'

def parseAfterScheme (scheme : String) (address : List Char) : Except Fault Url := do
  let authority := address.takeWhile fun c => !isAuthorityEnd c
  let (beforeFragment, fragment) := cutAt '#' (address.drop authority.length)
  let (path, query) := cutAt '?' beforeFragment
  let (userinfo, hostAndPort) := splitUserinfo authority
  let (host, port) := splitPort hostAndPort
  let host ← normalHost host
  let port ← normalPort scheme port
  return {
    scheme := scheme
    userinfo := quote (isSafeBut userinfoUnsafe) userinfo
    host := host
    port := port
    path := quote (isSafeBut pathUnsafe) (normalPath path)
    query := query.map (quote (isSafeBut queryUnsafe))
    fragment := fragment.map (quote (isSafeBut fragmentUnsafe)) }

def parse (scheme : String) (address : List Char) : Except Fault Url :=
  let whole := scheme.toList ++ "://".toList ++ address
  match whole.findIdx? isAsciiControl with
  | some i => .error (invalid ("Invalid non-printable ASCII character in URL, " ++
      String.ofList (Text.quoteChars (.ofChars (whole.drop i |>.take 1))) ++
      " at position " ++ toString i ++
      "."))
  | none =>
      if 65536 < whole.length then .error (invalid "URL too long")
      else parseAfterScheme scheme address

def withTrailingSlash (u : Url) : Url :=
  let path := if u.path.isEmpty then ['/'] else u.path
  let closed (cs : List Char) : List Char :=
    if cs.getLast? == some '/' then cs else cs ++ ['/']
  match u.query with
  | some query => { u with path := path, query := some (closed query) }
  | none => { u with path := closed path }

def authority (u : Url) : List Char :=
  let host := if u.host.contains ':' then '[' :: (u.host ++ [']']) else u.host
  (if u.userinfo.isEmpty then [] else u.userinfo ++ ['@']) ++ host ++
    (u.port.elim [] fun n => ':' :: Decimal.integerChars n)

def text (u : Url) : String :=
  let authority := u.authority
  String.ofList
    (u.scheme.toList ++ ':' :: ((if authority.isEmpty then [] else '/' :: '/' :: authority) ++
      u.path ++ (u.query.elim [] fun q => '?' :: q) ++ (u.fragment.elim [] fun f => '#' :: f)))

end Url

end QueryShell.Connection
