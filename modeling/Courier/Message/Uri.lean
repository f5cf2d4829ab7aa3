/-!
# Request targets

A target is a path with an optional query, or an absolute reference with scheme and authority before
them, or an authority alone, or an asterisk. A fragment is dropped when a target is read. A path that
is left out next to a scheme or a query is the root.
-/

namespace Courier

structure Uri where
  scheme : Option String := none
  authority : Option String := none
  /-- The path as it is written. -/
  written : String := ""
  query : Option String := none
deriving DecidableEq, Repr

namespace Uri

def path (uri : Uri) : String :=
  if uri.written ≠ "" then uri.written
  else if uri.scheme.isSome || uri.query.isSome then "/"
  else ""

instance : ToString Uri :=
  ⟨fun uri =>
    ((uri.scheme.map (· ++ "://")).getD "") ++ uri.authority.getD "" ++ uri.path ++
      ((uri.query.map ("?" ++ ·)).getD "")⟩

/-- The most bytes that a target has. -/
def maxLength : Nat := 0xfffe
/-- The most characters that a scheme has. -/
def maxScheme : Nat := 64
/-- The most colons in a row of groups of an authority. -/
def maxColons : Nat := 8

def isSchemeChar (c : Char) : Bool := c.isAlphanum || c = '+' || c = '-' || c = '.' || c = '~'

def isAuthorityChar (c : Char) : Bool := c.isAlphanum || "!$%&'()*+,-.:;=@[]_~".toList.contains c

/-- A character beyond ASCII; in a path and in a query it stands for itself. -/
def isForeignChar (c : Char) : Bool := 0x80 ≤ c.toNat

/-- A character of ASCII that shows. -/
def isVisibleChar (c : Char) : Bool := 0x21 ≤ c.toNat && c.toNat ≤ 0x7e

/-- The characters of a path, all others having to be written in percent form; some that should be
are let through, as clients send them. -/
def isPathChar (c : Char) : Bool :=
  isForeignChar c || (isVisibleChar c && !("#<>?".toList.contains c) && c.toNat ≠ 0x60)

def isQueryChar (c : Char) : Bool :=
  isForeignChar c || (isVisibleChar c && !("\"#<>".toList.contains c))

/-- What has been seen of an authority. -/
structure Scan where
  /-- Colons since the last closing bracket or at sign. -/
  colons : Nat := 0
  opened : Bool := false
  closed : Bool := false
  /-- Whether a percent sign was seen since the last closing bracket or at sign. -/
  percent : Bool := false
  endsInAt : Bool := false

def Scan.step? (scan : Scan) (c : Char) : Option Scan :=
  let scan := { scan with endsInAt := c = '@' }
  if !isAuthorityChar c then none
  else if c = ':' then
    if maxColons ≤ scan.colons then none else some { scan with colons := scan.colons + 1 }
  else if c = '[' then
    if scan.percent || scan.opened then none else some { scan with opened := true }
  else if c = ']' then
    if !scan.opened || scan.closed then none
    else some { scan with closed := true, colons := 0, percent := false }
  else if c = '@' then some { scan with colons := 0, percent := false }
  else if c = '%' then some { scan with percent := true }
  else some scan

/-- User information, host and port: brackets come in one pair, and behind the user information
there is at most one colon outside of them and no percent sign. -/
def isAuthority (chars : List Char) : Bool :=
  match chars.foldlM Scan.step? {} with
  | some scan =>
    scan.opened == scan.closed && scan.colons ≤ 1 && !scan.endsInAt && !scan.percent
  | none => false

/-- Splits off a scheme with the mark behind it, and says whether one is there. -/
def splitScheme (text : List Char) : Option (List Char) × List Char :=
  match text.dropWhile isSchemeChar with
  | ':' :: '/' :: '/' :: rest => (some (text.takeWhile isSchemeChar), rest)
  | _ => (none, text)

/-- The two schemes of the web are written in lower case. -/
def schemeName (chars : List Char) : String :=
  let lower := String.ofList (chars.map Char.toLower)
  if lower = "http" ∨ lower = "https" then lower else String.ofList chars

/-- Reads a path with an optional query, and drops a fragment. -/
def ofPath? (uri : Uri) (text : List Char) : Option Uri :=
  let text := text.takeWhile (· ≠ '#')
  let written := text.takeWhile (· ≠ '?')
  let uri := { uri with written := String.ofList written }
  if !written.all isPathChar then none
  else match text.dropWhile (· ≠ '?') with
    | [] => some uri
    | _ :: query =>
      if query.all isQueryChar then some { uri with query := some (String.ofList query) } else none

/-- Reads an authority, behind a scheme with the path that follows, else alone. -/
def ofAuthority? (scheme : Option (List Char)) (text : List Char) : Option Uri :=
  let inAuthority (c : Char) : Bool := c ≠ '/' && c ≠ '?' && c ≠ '#'
  let authority := text.takeWhile inAuthority
  let rest := text.dropWhile inAuthority
  if authority.isEmpty || !isAuthority authority then none
  else
    let uri : Uri := { authority := some (String.ofList authority) }
    match scheme with
    | some scheme =>
      if maxScheme < scheme.length then none
      else ofPath? { uri with scheme := some (schemeName scheme) } rest
    | none => if rest.isEmpty then some uri else none

def parse? (text : String) : Option Uri :=
  if maxLength < text.utf8ByteSize then none
  else match text.toList with
    | ['*'] => some { written := "*" }
    | '/' :: rest => ofPath? {} ('/' :: rest)
    | chars => let (scheme, rest) := splitScheme chars; ofAuthority? scheme rest

end Uri

end Courier
