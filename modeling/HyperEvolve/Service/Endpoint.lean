import HyperEvolve.Decimal.Integer
import HyperEvolve.Service.HostName
import HyperEvolve.Text.Case
import HyperEvolve.Text.Quoted
import HyperEvolve.Text.Utf8

/-!
# Endpoints

The address of a service in normal form: scheme and host in lower case, no port that the scheme
implies, no `.` or `..` in the path, and percent escapes for characters that may not stand in their
part of an address.
-/

namespace HyperEvolve

namespace Endpoint

inductive Fault where
  | tooLong
  | control (p : CodePoint) (position : Nat)
  | port (text : Text)
  | ipv4 (host : Text)
  | ipv6 (host : Text)
  | hostName (host : Text)
  | relativeSlashes
  | relativeColon
  | unencodable (fault : EncodeFault)
  /-- The zone of an address, which stands in a header, goes beyond ASCII. -/
  | beyondAscii (fault : EncodeFault)
deriving DecidableEq, Repr

def Fault.message : Fault → String
  | .tooLong => "URL too long"
  | .control p position =>
    "Invalid non-printable ASCII character in URL, " ++ Text.quoted [p] ++ s!" at position {position}."
  | .port text => "Invalid port: " ++ text.quoted
  | .ipv4 host => "Invalid IPv4 address: " ++ host.quoted
  | .ipv6 host => "Invalid IPv6 address: " ++ host.quoted
  | .hostName host => "Invalid IDNA hostname: " ++ host.quoted
  | .relativeSlashes => "Relative URLs cannot have a path starting with '//'"
  | .relativeColon => "Relative URLs cannot have a path starting with ':'"
  | .unencodable fault => fault.message
  | .beyondAscii fault => fault.asciiMessage

/-! ## Classes of characters -/

def isDigit (p : CodePoint) : Bool := 48 ≤ p.val && p.val ≤ 57

def isLetter (p : CodePoint) : Bool :=
  (65 ≤ p.val && p.val ≤ 90) || (97 ≤ p.val && p.val ≤ 122)

def isHex (p : CodePoint) : Bool :=
  isDigit p || (65 ≤ p.val && p.val ≤ 70) || (97 ≤ p.val && p.val ≤ 102)

def isIn (chars : String) (p : CodePoint) : Bool := chars.toList.any p.is

/-! ## Parts of an address -/

/-- The parts of an address as written. -/
structure Parts where
  scheme : Text
  authority : Text
  path : Text
  query : Option Text
  fragment : Option Text

def isSchemeChar (p : CodePoint) : Bool := isLetter p || isDigit p || isIn "+.-" p

/-- A scheme and what follows its colon. -/
def splitScheme (t : Text) : Text × Text :=
  let name := t.takeWhile isSchemeChar
  match t.drop name.length with
  | [] => ([], t)
  | p :: rest =>
    if p.is ':' && (name.isEmpty || name.head?.any isLetter) then (name, rest) else ([], t)

def splitAt (c : Char) (t : Text) : Text × Option Text :=
  let before := t.takeWhile fun p => !p.is c
  (before, match t.drop before.length with
    | _ :: rest => some rest
    | [] => none)

def split (t : Text) : Parts :=
  let (scheme, t) := splitScheme t
  let (t, fragment) := splitAt '#' t
  let (t, query) := splitAt '?' t
  match Text.after? "//" t with
  | some t =>
    let authority := t.takeWhile fun p => !p.is '/'
    ⟨scheme, authority, t.drop authority.length, query, fragment⟩
  | none => ⟨scheme, [], t, query, fragment⟩

/-- The part before the last occurrence of a character, if it occurs, and the rest. -/
def splitLast (c : Char) (t : Text) : Option Text × Text :=
  let after := (t.reverse.takeWhile fun p => !p.is c).reverse
  if after.length = t.length then (none, t)
  else (some ((t.take (t.length - after.length)).dropLast), after)

/-- The host and the port of an authority without user information. -/
def splitPort (t : Text) : Text × Text :=
  let plain := t.takeWhile fun p => !p.is ':'
  let (host, rest) :=
    if t.head?.any (·.is '[') then
      match splitLast ']' t with
      | (some inner, after) => (inner ++ [.ofChar ']'], after)
      | (none, _) => (plain, t.drop plain.length)
    else (plain, t.drop plain.length)
  (host, (Text.after? ":" rest).getD rest)

/-! ## Hosts -/

def splitOn (c : Char) : Text → List Text
  | [] => [[]]
  | p :: rest =>
    if p.is c then [] :: splitOn c rest
    else match splitOn c rest with
      | l :: ls => (p :: l) :: ls
      | [] => [[p]]

/-- Four runs of digits with points between them. -/
def looksLikeIpv4 (t : Text) : Bool :=
  let parts := splitOn '.' t
  parts.length = 4 && parts.all fun p => !p.isEmpty && p.all isDigit

def digitsValue (ds : Text) : Nat := ds.foldl (fun n p => n * 10 + (p.val - 48)) 0

def isIpv4Part (t : Text) : Bool :=
  !t.isEmpty && t.all isDigit && t.length ≤ 3 && digitsValue t ≤ 255 &&
    (t.length = 1 || !t.head?.any (·.is '0'))

def isIpv4 (t : Text) : Bool :=
  let parts := splitOn '.' t
  parts.length = 4 && parts.all isIpv4Part

def isIpv6Group (t : Text) : Bool := !t.isEmpty && t.length ≤ 4 && t.all isHex

/-- Eight groups of hexadecimal digits; one run of empty groups stands for zeros, and the last two
groups may be written as an IPv4 address. -/
def isIpv6 (t : Text) : Bool :=
  let (address, zone) := splitAt '%' t
  let zoneFits := match zone with
    | none => true
    | some z => !z.isEmpty && !z.any (·.is '%')
  let parts := splitOn ':' address
  let (parts, tailFits) := match parts.reverse with
    | last :: before =>
      if last.any (·.is '.') then
        (before.reverse ++ [Text.ofString "0", Text.ofString "0"], isIpv4 last)
      else (parts, true)
    | [] => (parts, true)
  let inner := (parts.drop 1).dropLast
  let gaps := (inner.filter List.isEmpty).length
  let lead := parts.head?.getD []
  let final := parts.getLast?.getD []
  zoneFits && tailFits && 3 ≤ parts.length && parts.length ≤ 9 && gaps ≤ 1 &&
    (inner.all fun g => g.isEmpty || isIpv6Group g) &&
    (if gaps = 1 then
      (isIpv6Group lead || (lead.isEmpty && (parts.drop 1).head? = some [])) &&
        (isIpv6Group final || (final.isEmpty && inner.getLast? = some [])) &&
        (parts.filter fun g => !g.isEmpty).length ≤ 7
    else parts.length = 8 && isIpv6Group lead && isIpv6Group final)

/-! ## Escapes -/

def upperHex (n : Nat) : CodePoint := .ofNat (if n < 10 then 48 + n else 55 + n)

/-- The escape of one code point; a surrogate has none. -/
def percent (p : CodePoint) : Except Fault Text :=
  match Utf8.encodeText [p] with
  | .ok bs => .ok (bs.flatMap fun b => [.ofChar '%', upperHex (b.toNat / 16), upperHex (b.toNat % 16)])
  | .error fault => .error (.unencodable fault)

/-- Escapes what is not safe; an escape that is already there stays. -/
def quote (safe : CodePoint → Bool) : Text → Except Fault Text
  | [] => .ok []
  | p :: a :: b :: rest =>
    if p.is '%' && isHex a && isHex b then do return p :: a :: b :: (← quote safe rest)
    else do
      let here ← if safe p then pure [p] else percent p
      return here ++ (← quote safe (a :: b :: rest))
  | p :: rest => do
    let here ← if safe p then pure [p] else percent p
    return here ++ (← quote safe rest)

def isUnreserved (p : CodePoint) : Bool := isLetter p || isDigit p || isIn "-._~" p

def isVisible (p : CodePoint) : Bool := 0x20 < p.val && p.val < 0x7F

def pathSafe (p : CodePoint) : Bool := isVisible p && !isIn "\"#<>?`\x7b\x7d" p
def querySafe (p : CodePoint) : Bool := isVisible p && !isIn "\"#<>" p
def fragmentSafe (p : CodePoint) : Bool := isVisible p && !isIn "\"<>`" p
def userSafe (p : CodePoint) : Bool := pathSafe p && !isIn "/;=@[\\]^|" p
def hostSafe (p : CodePoint) : Bool := isUnreserved p || isIn "!$&'()*+,;=\"`\x7b\x7d%|\\" p

/-! ## Normal form -/

def host (t : Text) : Except Fault Text :=
  if t.isEmpty then .ok []
  else if looksLikeIpv4 t then if isIpv4 t then .ok t else .error (.ipv4 t)
  else if t.head?.any (·.is '[') && t.getLast?.any (·.is ']') && 2 ≤ t.length then
    let inner := (t.drop 1).dropLast
    if isIpv6 inner then .ok inner else .error (.ipv6 t)
  else if t.all fun p => p.val < 128 then quote hostSafe t.lower
  else match HostName.encode? t.lower with
    | some name => .ok name
    | none => .error (.hostName t)

def defaultPort? (scheme : Text) : Option Int :=
  match scheme.toString with
  | "ftp" => some 21
  | "http" | "ws" => some 80
  | "https" | "wss" => some 443
  | _ => none

def port (scheme t : Text) : Except Fault (Option Int) :=
  if t.isEmpty then .ok none
  else if !t.isScalar then .error (.port t)
  else match Decimal.int? t.toString with
    | none => .error (.port t)
    | some n => .ok (if defaultPort? scheme = some n then none else some n)

/-- Drops `.` and steps back at `..`, never above the start. -/
def dropDots (path : Text) : Text :=
  let here := Text.ofString "."
  let above := Text.ofString ".."
  let parts := splitOn '/' path
  if parts.any fun p => p = here || p = above then
    Text.join (Text.ofString "/") (parts.foldl (fun out p =>
      if p = here then out
      else if p = above then (if out.isEmpty || out = [[]] then out else out.dropLast)
      else out ++ [p]) [])
  else path

structure Address where
  scheme : Text
  user : Text
  host : Text
  port : Option Int
  path : Text
  query : Option Text
  fragment : Option Text

def wrapped (left : String) (t : Text) (right : String) : Text := Text.ofString left ++ t ++ right

/-- Host and port as they stand in a header. -/
def Address.location (a : Address) : Text :=
  let host := if a.host.any (·.is ':') then wrapped "[" a.host "]" else a.host
  let port : Text := match a.port with
    | some n => Text.ofString (":" ++ ToString.toString n)
    | none => []
  host ++ port

/-- The first run of code points beyond ASCII. -/
def beyondAscii? (t : Text) : Option EncodeFault :=
  let before := (t.takeWhile fun p => p.val < 128).length
  match t.drop before with
  | [] => none
  | p :: rest => some ⟨p, before, before + 1 + (rest.takeWhile fun q => 128 ≤ q.val).length⟩

def Address.toText (a : Address) : Text :=
  let user := if a.user.isEmpty then [] else wrapped "" a.user "@"
  let authority := user ++ a.location
  let optional (mark : String) (part : Option Text) : Text := match part with
    | some t => wrapped mark t ""
    | none => []
  (if a.scheme.isEmpty then [] else wrapped "" a.scheme ":") ++
    (if authority.isEmpty then [] else wrapped "//" authority "") ++ a.path ++
    optional "?" a.query ++ optional "#" a.fragment

def maxLength : Nat := 65536

def isControl (p : CodePoint) : Bool := p.val < 32 || p.val = 127

def address (t : Text) : Except Fault Address := do
  if maxLength < t.length then throw .tooLong
  match t.find? isControl with
  | some p => throw (.control p (t.takeWhile (· ≠ p)).length)
  | none => pure ()
  let p := split t
  let (user, rest) := splitLast '@' p.authority
  let (hostText, portText) := splitPort rest
  let scheme := p.scheme.lower
  let user ← quote userSafe (user.getD [])
  let host ← host hostText
  let port ← port p.scheme portText
  let absolute := !scheme.isEmpty || !user.isEmpty || !host.isEmpty || port.isSome
  if !absolute then
    if (Text.after? "//" p.path).isSome then throw .relativeSlashes
    if (Text.after? ":" p.path).isSome then throw .relativeColon
  let path ← quote pathSafe (if absolute then dropDots p.path else p.path)
  let query ← p.query.mapM (quote querySafe)
  let fragment ← p.fragment.mapM (quote fragmentSafe)
  return ⟨scheme, user, host, port, path, query, fragment⟩

/-- The normal form of an address. One without scheme or host is taken below the root. -/
def normalize (endpoint : Text) : Except Fault Text := do
  let a ← address endpoint
  if !a.scheme.isEmpty && !a.host.isEmpty then
    match beyondAscii? a.location with
    | some fault => throw (.beyondAscii fault)
    | none => return a.toText
  let below := Text.ofString "/" ++ a.path.dropWhile (·.is '/')
  return { a with scheme := [], user := [], host := [], port := none, path := below,
                  fragment := none }.toText

/-- Whether an address names its scheme. -/
def hasScheme (url : Text) : Bool :=
  let name := url.takeWhile fun p => !p.is '/' && !p.is ':'
  !name.isEmpty && (url.drop name.length).head?.any (·.is ':')

end Endpoint

end HyperEvolve
