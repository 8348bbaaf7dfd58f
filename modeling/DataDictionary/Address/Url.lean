import DataDictionary.Address.Host

/-!
# Addresses with a scheme

A name may be an address: a scheme, a colon and what the scheme calls for. Of addresses of files
the path matters, of all others only the scheme. What a scheme calls for must be well formed, or
the name is no address at all.
-/

namespace DataDictionary.Address

open Text

inductive Url where
  /-- A file, and whether it is on another computer; the segments of its path are as written, except
  that steps to the same and to the parent directory are carried out. -/
  | file (isElsewhere : Bool) (segments : List (List Char))
  | other (scheme : List Char)
deriving DecidableEq, Repr

/-- A character that is dropped wherever an address holds it. -/
def isDropped (c : Char) : Bool := c == '\t' || c == '\n' || c == '\r'

/-- A control character or a space, dropped at the ends of an address. -/
def isEdge (c : Char) : Bool := c.toNat ≤ 0x20

/-- A name without what reading it as an address drops. -/
def prepared (s : List Char) : List Char :=
  ((s.dropWhile isEdge).reverse.dropWhile isEdge).reverse.filter (!isDropped ·)

/-- The scheme of an address, in small letters, and what follows its colon. -/
def scheme? (s : List Char) : Option (List Char × List Char) :=
  match s with
  | c :: _ =>
    if c.isAlpha then
      let isPart (c : Char) := c.isAlphanum || c == '+' || c == '-' || c == '.'
      match s.dropWhile isPart with
      | ':' :: rest => some (asciiLower (s.takeWhile isPart), rest)
      | _ => none
    else none
  | [] => none

/-- Schemes whose hosts are computers. -/
def specialSchemes : List (List Char) :=
  ["http", "https", "ws", "wss", "ftp"].map String.toList

/-- A character that ends the host part; a backslash counts as a slash where `special`. -/
def endsAuthority (special : Bool) (c : Char) : Bool :=
  c == '/' || c == '?' || c == '#' || (special && c == '\\')

/-- What stands before the last `@`, if there is one, and what stands behind it. -/
def splitUser (s : List Char) : Option (List Char) × List Char :=
  let host := (s.reverse.takeWhile (· != '@')).reverse
  if s.contains '@' then (some (s.take (s.length - host.length - 1)), host) else (none, s)

/-- A host, and the port behind it with its colon; colons inside brackets belong to the host. -/
def splitPort : Bool → List Char → List Char × List Char
  | _, [] => ([], [])
  | inside, c :: rest =>
    if c == ':' && !inside then ([], c :: rest)
    else
      let (host, port) := splitPort (if c == '[' then true else if c == ']' then false else inside) rest
      (c :: host, port)

/-- A port behind its colon: digits up to 65535, or nothing. It ends at a backslash. -/
def isPort (s : List Char) : Bool :=
  let s := s.takeWhile (· != '\\')
  s.all (fun c => '0' ≤ c && c ≤ '9') && s.foldl (fun n c => n * 10 + digitValue c) 0 ≤ 65535

/-- What stands between two slashes and the path of an address is well formed; `isLast` if no path
follows. Where hosts have no meaning there may be none, but then there is neither port nor user. -/
def isAuthority (special isLast : Bool) (s : List Char) : Bool :=
  let (user, rest) := splitUser s
  let (host, port) := splitPort false rest
  if host.isEmpty then
    !special && port.isEmpty && user.all fun user => user == [':'] || (user.isEmpty && isLast)
  else (if special then (Host.read? host).isSome else isOpaqueHost host) && isPort (port.drop 1)

/-- What follows the scheme of an address of no file is well formed. -/
def isWellFormed (special : Bool) (s : List Char) : Bool :=
  let isAuthority (s : List Char) : Bool :=
    let authority := s.takeWhile (!endsAuthority special ·)
    isAuthority special (authority.length == s.length) authority
  if special then isAuthority (s.dropWhile fun c => c == '/' || c == '\\')
  else
    match dropStart? "//".toList s with
    | some rest => isAuthority rest
    | none => true

/-! ### Files -/

/-- A letter and a colon or bar: the name of a drive. -/
def isDrive : List Char → Bool
  | [a, b] => a.isAlpha && (b == ':' || b == '|')
  | _ => false

def isSame (segment : List Char) : Bool := [".", "%2e"].any (sameAscii segment ·.toList)

def isParent (segment : List Char) : Bool :=
  ["..", ".%2e", "%2e.", "%2e%2e"].any (sameAscii segment ·.toList)

/-- Take up a segment of a path. The first segment may name a drive, and no step to the parent
directory leaves a directory named like a drive. -/
def addSegment (path : List (List Char)) (segment : List Char) : List (List Char) :=
  if isParent segment then (if path.getLast?.any isDrive then path else path.dropLast)
  else if isSame segment then path
  else if path.isEmpty && isDrive segment then [segment.take 1 ++ [':']]
  else path ++ [segment]

/-- The segments of a path, steps carried out. A path that ends with a step leads to a directory,
which is shown by an empty segment. -/
def resolved (segments : List (List Char)) : List (List Char) :=
  let path := segments.foldl addSegment []
  if segments.getLast?.any fun segment => isSame segment || isParent segment then path ++ [[]]
  else path

/-- The segments of a path, which ends at a query or a fragment. -/
def pathSegments (s : List Char) : List (List Char) :=
  let path := s.takeWhile fun c => c != '?' && c != '#'
  let path := match path with
    | c :: rest => if c == '/' || c == '\\' then rest else path
    | [] => []
  resolved (splitWhere (fun c => c == '/' || c == '\\') path)

/-- The address of a file by its path. A path has no empty segments at its start. -/
def Url.ofPath (isElsewhere : Bool) (segments : List (List Char)) : Url :=
  let path := segments.dropWhile (·.isEmpty)
  .file isElsewhere (if path.isEmpty then [[]] else path)

/-- Read the address of a file behind its scheme. The name of a drive takes the place of a host. -/
def readFile (s : List Char) : Option Url :=
  match s with
  | a :: b :: rest =>
    if (a == '/' || a == '\\') && (b == '/' || b == '\\') then
      let host := rest.takeWhile (!endsAuthority true ·)
      if host.isEmpty || isDrive host then some (.ofPath false (pathSegments rest))
      else
        let path := pathSegments (rest.dropWhile (!endsAuthority true ·))
        (Host.read? host).map fun host => .ofPath (host != .this && !path.head?.any isDrive) path
    else some (.ofPath false (pathSegments s))
  | _ => some (.ofPath false (pathSegments s))

def Url.read? (name : List Char) : Option Url :=
  match scheme? (prepared name) with
  | none => none
  | some (scheme, rest) =>
    if scheme == "file".toList then readFile rest
    else if isWellFormed (specialSchemes.contains scheme) rest then some (.other scheme)
    else none

/-! ### Names of workbooks -/

/-- The name is the address of something that is no local file. A scheme of one letter is taken
for the name of a drive. -/
def isRemote (name : List Char) : Bool :=
  match Url.read? name with
  | some (.other scheme) => 1 < scheme.length
  | _ => false

/-- Where the file of a name is to be found. -/
inductive Target where
  | path (path : List Char)
  /-- A path that is no text; no file here has one. -/
  | noText
  /-- Another computer. -/
  | elsewhere
deriving DecidableEq, Repr

/-- A path that ends like the name of a drive calls for a directory. -/
def closeDrive (path : List Char) : List Char :=
  match path.reverse with
  | a :: b :: _ :: _ => if isDrive [b, a] then path ++ ['/'] else path
  | _ => path

def target (name : List Char) : Target :=
  match Url.read? name with
  | some (.file true _) => .elsewhere
  | some (.file false segments) =>
    match Utf8.decode? (segments.flatMap fun segment => percentBytes ('/' :: segment)) with
    | some path => .path (closeDrive path.toList)
    | none => .noText
  | _ => .path name

end DataDictionary.Address
