import EventHub.Text.Ascii
import EventHub.Text.Split

/-!
The forms of a URI that requests have: absolute, a path with a query, an authority alone, and the
asterisk. A fragment is left out. Characters beyond ASCII stand in paths and queries only.
-/

namespace EventHub.Http

structure Uri where
  scheme : Option String := none
  authority : Option String := none
  /-- As it is written, and empty where it is left out. -/
  path : String := ""
  query : Option String := none
  deriving DecidableEq

namespace Uri

/-- In bytes. -/
def maxLength : Nat := 65534

def maxSchemeLength : Nat := 64

/-- An address of version 6 in brackets and a port have this many colons. -/
def maxColons : Nat := 8

def isSchemeChar (char : Char) : Bool :=
  char.isAlphanum || char == '+' || char == '-' || char == '.' || char == '~'

def isAuthorityChar (char : Char) : Bool :=
  '!' ≤ char && char ≤ '~' &&
    !(['"', '%', '<', '>', '\\', '^', '\x60', '\x7b', '|', '\x7d'].contains char)

def isPathChar (char : Char) : Bool :=
  '!' ≤ char && char.toNat ≠ 0x7F && !(['#', '<', '>', '?', '\x60'].contains char)

def isQueryChar (char : Char) : Bool :=
  '!' ≤ char && char.toNat ≠ 0x7F && !(['"', '#', '<', '>'].contains char)

/-- What an authority has shown so far. The name of a user may hold colons and escapes, and so
may an address in brackets; both are forgotten when it ends. -/
structure Authority where
  colons : Nat := 0
  opened : Bool := false
  closed : Bool := false
  escaped : Bool := false

namespace Authority

def step? (seen : Authority) (char : Char) : Option Authority :=
  match char with
  | ':' => if seen.colons < maxColons then some { seen with colons := seen.colons + 1 } else none
  | '[' => if seen.escaped || seen.opened then none else some { seen with opened := true }
  | ']' =>
      if !seen.opened || seen.closed then none
      else some { seen with closed := true, colons := 0, escaped := false }
  | '@' => some { seen with colons := 0, escaped := false }
  | '%' => some { seen with escaped := true }
  | char => if isAuthorityChar char then some seen else none

end Authority

def isAuthority (text : List Char) : Bool :=
  (text.foldlM Authority.step? {}).any (fun seen =>
    seen.opened == seen.closed && seen.colons ≤ 1 && !seen.escaped) && text.getLast? != some '@'

/-- The scheme before `://`, if there is one, and the rest. The schemes of the web are spelled in
small letters. -/
def splitScheme? (text : List Char) : Option (Option String × List Char) :=
  let name := text.takeWhile isSchemeChar
  match text.dropWhile isSchemeChar with
  | ':' :: '/' :: '/' :: rest =>
      if maxSchemeLength < name.length then none
      else
        let isWeb := ["http".toList, "https".toList].contains (Text.lower name)
        some (some (String.ofList (if isWeb then Text.lower name else name)), rest)
  | _ => some (none, text)

def target? (text : List Char) : Option (String × Option String) :=
  let isPath (char : Char) : Bool := char != '?' && char != '#'
  let path := text.takeWhile isPath
  let query :=
    match text.dropWhile isPath with
    | '?' :: rest => some (rest.takeWhile (· != '#'))
    | _ => none
  if path.all isPathChar && query.all (List.all · isQueryChar) then
    some (String.ofList path, query.map String.ofList)
  else none

def endsAuthority (char : Char) : Bool :=
  char == '/' || char == '?' || char == '#'

/-- A URI that does not start with its path. Without a scheme it is an authority. -/
def ofAuthority? (text : List Char) : Option Uri := do
  let (scheme, rest) ← splitScheme? text
  let authority := rest.takeWhile fun char => !endsAuthority char
  let after := rest.dropWhile fun char => !endsAuthority char
  if authority.isEmpty || !isAuthority authority || (scheme.isNone && !after.isEmpty) then none
  else
    let (path, query) ← target? after
    some { scheme, authority := some (String.ofList authority), path, query }

def parse? (text : String) : Option Uri :=
  if maxLength < text.utf8ByteSize then none
  else
    match text.toList with
    | ['*'] => some { path := "*" }
    | '/' :: rest => (target? ('/' :: rest)).map fun (path, query) => { path, query }
    | chars => ofAuthority? chars

def servedPath (uri : Uri) : String :=
  if uri.scheme.isSome && uri.path.isEmpty then "/" else uri.path

/-- The path a client asks for. Between an authority and a query it puts none, which no server
takes. -/
def sentPath (uri : Uri) : String :=
  if uri.path.isEmpty && uri.query.isNone then "/" else uri.path

/-- The host and its port, behind the name of a user; a client needs them. -/
def host? (uri : Uri) : Option String :=
  uri.authority.bind fun authority =>
    let host :=
      match Text.splitFirst '@' authority.toList with
      | some (_, host) => host
      | none => authority.toList
    if host.isEmpty then none else some (String.ofList host)

end Uri

end EventHub.Http
