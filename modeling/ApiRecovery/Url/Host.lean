import ApiRecovery.Text.LetterCase
import ApiRecovery.Text.Search
import ApiRecovery.Url.Domain
import ApiRecovery.Url.Ipv4
import ApiRecovery.Url.Ipv6
import ApiRecovery.Url.Percent

/-!
# Hosts of URLs

The host of a URL as browsers read it: blanks around it and line breaks inside do not count, for web
addresses backslashes are slashes, and the host is decoded, mapped to ASCII and read as a number
where it is one. `writtenHost?` is the part of the text where the host stands, for texts that are no
URL.
-/

namespace ApiRecovery.Url

/-- The kinds of schemes, by how the part after the colon is read. -/
inductive SchemeKind
  | web
  | file
  | other
  deriving DecidableEq, Repr

namespace SchemeKind

def ofName (name : String) : SchemeKind :=
  if ["http", "https", "ws", "wss", "ftp"].contains name then web
  else if name == "file" then file
  else other

def isSlash (kind : SchemeKind) (c : Char) : Bool :=
  c == '/' || (c == '\\' && kind != other)

end SchemeKind

/-- The text without controls and spaces around it and without tabs and line breaks. -/
def clean (url : String) : List Char :=
  let outer (c : Char) : Bool := c.toNat ≤ 0x20
  let cs := (url.toList.dropWhile outer).reverse.dropWhile outer
  cs.reverse.filter fun c => c != '\t' && c != '\n' && c != '\r'

def isSchemeChar (c : Char) : Bool :=
  c.isAlphanum || c == '+' || c == '-' || c == '.'

/-- The scheme in small letters and what follows the colon. -/
def cutScheme? (cs : List Char) : Option (String × List Char) :=
  let scheme := cs.takeWhile isSchemeChar
  match cs.drop scheme.length with
  | ':' :: rest =>
    if (scheme.head?.map Char.isAlpha).getD false then
      some (String.ofList (scheme.map Char.toLower), rest)
    else none
  | _ => none

def bracketed? (cs : List Char) : Option String :=
  match cs with
  | '[' :: rest =>
    if rest.getLast? == some ']' then (Ipv6.parse? rest.dropLast).map Ipv6.render else none
  | _ => none

def domainHost? (cs : List Char) : Option String :=
  if cs.head? == some '[' then bracketed? cs
  else
    match Domain.toAscii? (Text.Utf8.decode (Percent.decode cs)) with
    | none => none
    | some [] => none
    | some domain =>
      if Ipv4.isIntended domain then (Ipv4.ofHost? domain).map Ipv4.render
      else some (String.ofList domain)

def isForbidden (c : Char) : Bool :=
  "\x00\t\n\r #/:<>?@[\\]^|".toList.contains c

/-- The host of another scheme, which is not decoded. -/
def opaqueHost? (cs : List Char) : Option String :=
  if cs.head? == some '[' then bracketed? cs
  else if cs.any isForbidden then none
  else some (String.ofList (Percent.encode Percent.isControl cs))

/-- The length of the host at the beginning of an authority: up to a colon outside brackets. -/
def hostLength : Bool → List Char → Nat
  | _, [] => 0
  | inside, c :: rest =>
    if c == ':' && !inside then 0
    else hostLength (if c == '[' then true else if c == ']' then false else inside) rest + 1

/-- Whether the text after a host is empty or a colon and possibly a number of two bytes. -/
def isHostTail (cs : List Char) : Bool :=
  match cs with
  | [] => true
  | ':' :: digits => ((Text.ofDigits? 10 digits).map fun n => decide (n < 65536)).getD false
  | _ => false

/-- What comes after the last at sign, and whether there is something before it. -/
def cutUser (cs : List Char) : Bool × List Char :=
  let host := (cs.reverse.takeWhile (· != '@')).reverse
  (host.length + 1 < cs.length, host)

/-- The host in the part of a URL between the slashes. It may be empty only for other schemes, and
only if it stands alone. -/
def authorityHost? (kind : SchemeKind) (authority : List Char) : Option String :=
  let (hasUser, rest) := cutUser authority
  let host := rest.take (hostLength false rest)
  let tail := rest.drop host.length
  if host.isEmpty then
    if kind = .other && !hasUser && tail.isEmpty then some "" else none
  else
    match if kind = .other then opaqueHost? host else domainHost? host with
    | some found => if isHostTail tail then some found else none
    | none => none

def cutAuthority (kind : SchemeKind) (cs : List Char) : List Char :=
  cs.takeWhile fun c => !kind.isSlash c && c != '?' && c != '#'

def isDriveLetter (cs : List Char) : Bool :=
  match cs with
  | [c, d] => c.isAlpha && (d == ':' || d == '|')
  | _ => false

def dotParts : List String :=
  [".", "%2e", "..", ".%2e", "%2e.", "%2e%2e"]

def startsWithDrive (path : List Char) : Bool :=
  let path := path.takeWhile fun c => c != '?' && c != '#'
  let parts := Text.splitChars '/' (path.map fun c => if c = '\\' then '/' else c)
  let isDot (part : List Char) := dotParts.contains (String.ofList (part.map Char.toLower))
  let named := parts.tail.dropWhile isDot
  (named.head?.map isDriveLetter).getD false

/-- The host of a file: none for this machine, and none before a drive letter. -/
def fileHost? (rest : List Char) : Option String :=
  match rest with
  | a :: b :: rest =>
    if SchemeKind.file.isSlash a && SchemeKind.file.isSlash b then
      let host := cutAuthority .file rest
      if host.isEmpty || isDriveLetter host then some ""
      else
        match domainHost? host with
        | none => none
        | some found =>
          if found == "localhost" || startsWithDrive (rest.drop host.length) then some ""
          else some found
    else some ""
  | _ => some ""

/-- The host of a URL, empty if it has none; nothing if the text is no URL. -/
def parsedHost? (url : String) : Option String :=
  match cutScheme? (clean url) with
  | none => none
  | some (scheme, rest) =>
    match SchemeKind.ofName scheme with
    | .web => authorityHost? .web (cutAuthority .web (rest.dropWhile SchemeKind.web.isSlash))
    | .file => fileHost? rest
    | .other =>
      match rest with
      | '/' :: '/' :: rest => authorityHost? .other (cutAuthority .other rest)
      | _ => some ""

def afterMark? : List Char → Option (List Char)
  | ':' :: '/' :: '/' :: rest => some rest
  | _ :: rest => afterMark? rest
  | [] => none

/-- The text before the last colon, if only digits follow it, or the whole text without a colon. -/
def withoutNumber? (cs : List Char) : Option (List Char) :=
  let last := (cs.reverse.takeWhile (· != ':')).reverse
  if last.length = cs.length then some cs
  else if last.all Char.isDigit then some (cs.take (cs.length - last.length - 1))
  else none

def writtenHost? (url : String) : Option String :=
  (afterMark? url.toList).bind fun rest =>
    let authority := rest.takeWhile fun c => c != '/' && c != '?' && c != '#'
    let host := (cutUser authority).2
    let found :=
      if host.head? == some '[' then
        if host.contains ']' then some (host.takeWhile (· != ']') ++ [']']) else none
      else withoutNumber? host
    found.map String.ofList

/-- The host of a URL in small letters, read leniently. -/
def host? (url : String) : Option String :=
  ((parsedHost? url).or (writtenHost? url)).map Text.toLowercase

end ApiRecovery.Url
