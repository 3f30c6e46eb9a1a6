/-!
Addresses of the web, read leniently and written in one normal form.

A scheme is written in lower case, blanks around the text and line breaks in it are dropped, a path
loses its dot segments, characters that have no place in a part are percent-encoded, and the default
port of a scheme is left out.
-/
namespace Courier.Collector

/-- A server: its host, and its port unless it is the default one. -/
structure Server where
  host : List Char
  port : Option Nat
  deriving DecidableEq, Repr, Inhabited

/-- An address in its normal form. -/
structure Address where
  scheme : List Char
  /-- There are two slashes behind the scheme, and this server if it is not empty. -/
  server : Option Server
  path : List Char
  query : Option (List Char)
  fragment : Option (List Char)
  deriving DecidableEq, Repr, Inhabited

namespace Address

/-- Schemes that always name a server, with their default ports. -/
def defaultPorts : List (List Char × Nat) := [
  ("http".toList, 80), ("https".toList, 443), ("ws".toList, 80), ("wss".toList, 443),
  ("ftp".toList, 21)]

def fileScheme : List Char := "file".toList

def namesServer (scheme : List Char) : Bool := (defaultPorts.lookup scheme).isSome

def isSpecial (scheme : List Char) : Bool := namesServer scheme || scheme == fileScheme

/-- Two digits for a byte. -/
def percentByte (byte : Nat) : List Char :=
  let digit (n : Nat) := (Nat.digitChar n).toUpper
  ['%', digit (byte / 16), digit (byte % 16)]

def percentChar (c : Char) : List Char :=
  (String.singleton c).toUTF8.toList.flatMap fun byte => percentByte byte.toNat

/-- Percent-encode control characters, what is not ASCII, and the characters of a set. -/
def percent (set : List Char) (cs : List Char) : List Char :=
  cs.flatMap fun c =>
    if c.toNat < 32 || 126 < c.toNat || set.contains c then percentChar c else [c]

def fragmentSet : List Char := [' ', '"', '<', '>', '\x60']

def pathSet : List Char := '#' :: '?' :: '\x7b' :: '\x7d' :: fragmentSet

def querySet : List Char := [' ', '"', '#', '<', '>']

def apostrophe : Char := Char.ofNat 39

def cutAt (set : List Char) (cs : List Char) : List Char × List Char :=
  cs.span fun c => !set.contains c

def splitAt (set : List Char) : List Char → List (List Char)
  | [] => [[]]
  | c :: cs =>
    if set.contains c then [] :: splitAt set cs
    else
      match splitAt set cs with
      | [] => [[c]]
      | part :: parts => (c :: part) :: parts

/-- A lower-case segment, dots written out. -/
def plainDots : List Char → List Char
  | '%' :: '2' :: 'e' :: cs => '.' :: plainDots cs
  | c :: cs => c :: plainDots cs
  | [] => []

/-- Resolve dot segments; `done` holds the segments so far, the last one first. -/
def resolveDots (done : List (List Char)) : List (List Char) → List (List Char)
  | [] => done.reverse
  | segment :: rest =>
    let dots := plainDots (segment.map Char.toLower)
    if dots = ['.', '.'] then
      if rest.isEmpty then ([] :: done.drop 1).reverse else resolveDots (done.drop 1) rest
    else if dots = ['.'] then
      if rest.isEmpty then ([] :: done).reverse else resolveDots done rest
    else resolveDots (percent pathSet segment :: done) rest

/-- The normal form of a path, given without its first slash. -/
def normalPath (special : Bool) (cs : List Char) : List Char :=
  let slashes := if special then ['/', '\\'] else ['/']
  (resolveDots [] (splitAt slashes cs)).flatMap ('/' :: ·)

def hexDigit? (c : Char) : Option Nat :=
  if '0' ≤ c ∧ c ≤ '9' then some (c.toNat - '0'.toNat)
  else if 'a' ≤ c.toLower ∧ c.toLower ≤ 'f' then some (c.toLower.toNat - 'a'.toNat + 10)
  else none

/-- Undo percent-encoding of ASCII characters. -/
def unpercent : List Char → List Char
  | '%' :: a :: b :: cs =>
    match hexDigit? a, hexDigit? b with
    | some x, some y =>
      if 16 * x + y < 128 then Char.ofNat (16 * x + y) :: unpercent cs
      else '%' :: a :: b :: unpercent cs
    | _, _ => '%' :: unpercent (a :: b :: cs)
  | c :: cs => c :: unpercent cs
  | [] => []

/-- No host holds such a character. -/
def isForbidden (c : Char) : Bool :=
  c.toNat ≤ 32 || c.toNat = 127 ||
    ['#', '%', '/', ':', '<', '>', '?', '@', '[', '\\', ']', '^', '|'].contains c

/-- The number of an address part: decimal, octal behind a zero, or hexadecimal. -/
def partNumber? (cs : List Char) : Option Nat :=
  let read (base : Nat) (digits : List Char) : Option Nat :=
    digits.foldlM (fun n c => do
      let d ← hexDigit? c
      if d < base then some (n * base + d) else none) 0
  match cs with
  | [] => none
  | '0' :: 'x' :: digits => read 16 digits
  | '0' :: digit :: digits => read 8 (digit :: digits)
  | digits => read 10 digits

/-- The four bytes of a numeric host as text. -/
def dotted (n : Nat) : List Char :=
  (".".intercalate ([24, 16, 8, 0].map fun shift => s!"{n / Nat.pow 2 shift % 256}")).toList

/-- Read a numeric host: all parts but the last are bytes, and the last one fills what is left. -/
def numericHost? (parts : List (List Char)) : Option (List Char) := do
  let numbers ← parts.mapM partNumber?
  let last ← numbers.getLast?
  let bytes := numbers.dropLast
  if 4 < numbers.length ∨ bytes.any (255 < ·) ∨ Nat.pow 256 (5 - numbers.length) ≤ last then none
  else
    let number := bytes.zipIdx.foldl
      (fun n (byte, index) => n + byte * Nat.pow 256 (3 - index)) last
    some (dotted number)

/-- The normal form of a host that has a name or a number. -/
def namedHost? (cs : List Char) : Option (List Char) :=
  let host := (unpercent cs).map Char.toLower
  if host.any isForbidden then none
  else
    let parts := splitAt ['.'] host
    let parts := if parts.getLast? = some [] ∧ 1 < parts.length then parts.dropLast else parts
    match parts.getLast? with
    | some part =>
      let decimal := !part.isEmpty && part.all Char.isDigit
      let hexadecimal := part.take 2 == ['0', 'x'] && (partNumber? part).isSome
      if decimal || hexadecimal then numericHost? parts else some host
    | none => some host

/-- One of the numbers of an IPv6 address: up to four hexadecimal digits. -/
def hexGroup? (cs : List Char) : Option Nat :=
  if cs.isEmpty ∨ 4 < cs.length then none
  else cs.foldlM (fun n c => (hexDigit? c).map (16 * n + ·)) 0

/-- A byte in decimal, without a zero in front. -/
def decimalByte? (cs : List Char) : Option Nat :=
  if cs.isEmpty ∨ 3 < cs.length ∨ !cs.all Char.isDigit ∨ (cs.head? = some '0' ∧ 1 < cs.length) then
    none
  else
    let n := cs.foldl (fun n c => 10 * n + (c.toNat - '0'.toNat)) 0
    if 255 < n then none else some n

/-- Four bytes in decimal stand for two numbers. -/
def byteGroups? (cs : List Char) : Option (List Nat) := do
  match ← (splitAt ['.'] cs).mapM decimalByte? with
  | [a, b, c, d] => some [256 * a + b, 256 * c + d]
  | _ => none

/-- Numbers between colons; bytes may stand for the last two if that is allowed. -/
def groups? (bytes : Bool) (cs : List Char) : Option (List Nat) := do
  if cs.isEmpty then some []
  else
    let parts := splitAt [':'] cs
    let last := parts.getLast?.getD []
    let before ← parts.dropLast.mapM hexGroup?
    let after ←
      if bytes && last.contains '.' then byteGroups? last else (hexGroup? last).map ([·])
    some (before ++ after)

/-- What stands before and behind the first two colons in a row. -/
def cutColons? : List Char → Option (List Char × List Char)
  | ':' :: ':' :: cs => some ([], cs)
  | c :: cs => (cutColons? cs).map fun (before, after) => (c :: before, after)
  | [] => none

/-- The eight numbers of an IPv6 address; two colons in a row stand for one or more zeros. -/
def ipv6? (cs : List Char) : Option (List Nat) :=
  match cutColons? cs with
  | some (before, after) => do
    let before ← groups? false before
    let after ← groups? true after
    let given := before.length + after.length
    if 7 < given then none else some (before ++ List.replicate (8 - given) 0 ++ after)
  | none => (groups? true cs).filter (·.length = 8)

/-- Where the longest row of zeros begins, the first one of several, and how long it is. -/
def longestZeros (groups : List Nat) : Nat × Nat :=
  (List.range groups.length).foldl (fun best start =>
    let length := ((groups.drop start).takeWhile (· = 0)).length
    if best.2 < length then (start, length) else best) (0, 0)

/-- The normal form of an IPv6 address: two colons stand for the longest row of two or more zeros. -/
def ipv6Text (groups : List Nat) : List Char :=
  let text (groups : List Nat) := [':'].intercalate (groups.map (Nat.toDigits 16))
  let (start, length) := longestZeros groups
  if length < 2 then text groups
  else text (groups.take start) ++ [':', ':'] ++ text (groups.drop (start + length))

/-- The normal form of a host in square brackets, given without the first bracket. -/
def bracketHost? (cs : List Char) : Option (List Char) :=
  if cs.getLast? = some ']' then
    (ipv6? cs.dropLast).map fun groups => '[' :: ipv6Text groups ++ [']']
  else none

/-- Read a port; the default one of the scheme is left out. -/
def port? (scheme cs : List Char) : Option (Option Nat) :=
  if cs.isEmpty then some none
  else if cs.all Char.isDigit then
    let n := cs.foldl (fun n c => 10 * n + (c.toNat - '0'.toNat)) 0
    if 65535 < n then none
    else if defaultPorts.lookup scheme = some n then some none
    else some (some n)
  else none

/-- Read a server, without what may stand before an at sign. -/
def server? (scheme cs : List Char) : Option Server := do
  let cs := (splitAt ['@'] cs).getLast?.getD []
  let bracketed := cs.head? = some '['
  let (host, rest) :=
    if bracketed then
      let (inner, rest) := cutAt [']'] cs
      (inner ++ rest.take 1, rest.drop 1)
    else cutAt [':'] cs
  let port ←
    match rest with
    | [] => some none
    | ':' :: digits => port? scheme digits
    | _ => none
  let host ←
    if bracketed then bracketHost? (host.drop 1)
    else if isSpecial scheme then namedHost? host
    else if host.any isForbidden then none
    else some (percent [] host)
  if host.isEmpty ∧ (namesServer scheme ∨ port.isSome) then none else some ⟨host, port⟩

/-- Blanks and control characters at both ends, and line breaks and tabs anywhere, do not count. -/
def clean (cs : List Char) : List Char :=
  let isEdge (c : Char) : Bool := c.toNat ≤ 32
  let trimmed := ((cs.dropWhile isEdge).reverse.dropWhile isEdge).reverse
  trimmed.filter fun c => !(['\t', '\n', '\r'].contains c)

def scheme? (cs : List Char) : Option (List Char × List Char) :=
  let (scheme, rest) := cs.span fun c => c.isAlphanum || c = '+' || c = '-' || c = '.'
  match scheme, rest with
  | first :: _, ':' :: rest => if first.isAlpha then some (scheme.map Char.toLower, rest) else none
  | _, _ => none

/-- Read what follows the scheme, up to the query. -/
def hierarchy? (scheme cs : List Char) : Option (Option Server × List Char) :=
  let special := isSpecial scheme
  let slashes := if special then ['/', '\\'] else ['/']
  let (first, second) := (cs.head?.any slashes.contains, (cs.drop 1).head?.any slashes.contains)
  if namesServer scheme ∨ (first ∧ second) then do
    let cs := if namesServer scheme then cs.dropWhile slashes.contains else cs.drop 2
    let (authority, path) := cutAt slashes cs
    let server ← server? scheme authority
    let path := if path.isEmpty ∧ !special then [] else normalPath special (path.drop 1)
    some (some server, path)
  else if scheme = fileScheme then
    some (some ⟨[], none⟩, normalPath special (if first then cs.drop 1 else cs))
  else if first then some (none, normalPath special (cs.drop 1))
  else some (none, percent [] cs)

def parse? (text : String) : Option Address := do
  let (scheme, rest) ← scheme? (clean text.toList)
  let (rest, fragment) := cutAt ['#'] rest
  let (rest, query) := cutAt ['?'] rest
  let (server, path) ← hierarchy? scheme rest
  let querySet := if isSpecial scheme then apostrophe :: querySet else querySet
  some {
    scheme
    server
    path
    query := if query.isEmpty then none else some (percent querySet (query.drop 1))
    fragment := if fragment.isEmpty then none else some (percent fragmentSet (fragment.drop 1)) }

def hasHost (a : Address) : Bool := a.server.any fun server => !server.host.isEmpty

/-- The address can be asked for by this protocol. -/
def isWeb (a : Address) : Bool := a.scheme == "http".toList || a.scheme == "https".toList

def text (a : Address) : String :=
  let server := a.server.elim [] fun server =>
    '/' :: '/' :: (server.host ++ server.port.elim [] fun port => ':' :: Nat.toDigits 10 port)
  let query := a.query.elim [] ('?' :: ·)
  let fragment := a.fragment.elim [] ('#' :: ·)
  String.ofList (a.scheme ++ ':' :: (server ++ a.path ++ query ++ fragment))

end Address

end Courier.Collector
