import ClaimTracker.Keep
import ClaimTracker.Text.Blank
import ClaimTracker.Text.Digits
import ClaimTracker.Text.Percent

/-!
# Addresses of databases

A database is addressed by the path of its file, or by `file:` followed by a path and parameters, both
percent-encoded, with a number sign before what does not count. A zero octet ends the part in which it
is encoded. The parameters say how the file is used: whether it may be written or made (`mode`), how it
is locked and logged (`vfs`, `nolock`), whether it is taken for unchanging (`immutable`) and whether
its cache is shared (`cache`), which makes no difference here.
-/

namespace ClaimTracker

/-- A path with parameters, in their order. -/
structure DatabaseAddress where
  path : Octets
  parameters : List (String × String)
deriving DecidableEq, Repr

namespace DatabaseAddress

/-- What an address with parameters begins with. -/
def scheme : List Char := ['f', 'i', 'l', 'e', ':']

/-- What follows the host, which can only be this one. -/
def afterHost? : List Char → Option (List Char)
  | '/' :: '/' :: l =>
    if l.takeWhile (· != '/') ∈ [[], "localhost".toList] then some (l.dropWhile (· != '/'))
    else none
  | l => some l

/-- The octets of a part, up to the first zero. -/
def part (l : List Char) : Octets :=
  (Text.Percent.decode l).takeWhile (· != 0)

/-- A name and a value. What has no equals sign is a name. -/
def parameter (l : List Char) : String × String :=
  let (name, value) := (Text.cut '=' l).getD (l, [])
  (Text.Percent.shownText (part name), Text.Percent.shownText (part value))

def ofText? (s : String) : Option DatabaseAddress :=
  if scheme.isPrefixOf s.toList then do
    let l := (← afterHost? (s.toList.drop scheme.length)).takeWhile (· != '#')
    let (path, query) := (Text.cut '?' l).getD (l, [])
    return ⟨part path, ((Text.fields '&' query).map parameter).filter (!·.1.isEmpty)⟩
  else some ⟨Text.Utf8.ofString s, []⟩

def values (a : DatabaseAddress) (name : String) : List String :=
  (a.parameters.filter (·.1 == name)).map Prod.snd

/-- Whether a value says yes: a word for it, or a number whose last octet is not zero. -/
def saysYes (value : String) : Bool :=
  let l := value.toList
  match l.takeWhile Char.isDigit with
  | [] => l.map Char.toLower ∈ ["on".toList, "yes".toList, "true".toList]
  | digits =>
    let n := Text.Decimal.value digits
    n < 2147483648 && n % 256 != 0

/-- Whether the first parameter of a name says yes. -/
def isOn (a : DatabaseAddress) (name : String) : Bool :=
  (a.values name).head?.any saysYes

/-- What may be done with a database. -/
inductive Access where
  | readOnly
  | readWrite
  /-- Also making the file. -/
  | create
  /-- There is no file. -/
  | memory
deriving DecidableEq, Repr

namespace Access

def ofName? : String → Option Access
  | "ro" => some .readOnly
  | "rw" => some .readWrite
  | "rwc" => some .create
  | "memory" => some .memory
  | _ => none

/-- How much an access asks for. -/
def demand : Access → Nat
  | .memory => 0
  | .readOnly => 1
  | .readWrite => 2
  | .create => 3

/-- How much may be asked for in its place. -/
def limit : Access → Nat
  | .readOnly => 1
  | .readWrite => 2
  | .create | .memory => 3

/-- The access of one name after another, none of which may ask for more than the one before it
allows. -/
def narrow (a : Access) (name : String) : Option Access := do
  let next ← ofName? name
  if next.demand ≤ a.limit then some next else none

end Access

/-- Where a database is and how its changes are written. -/
inductive Storage where
  /-- In a file with a log. -/
  | logged
  /-- In a file without a log. -/
  | unlogged
  | memory
deriving DecidableEq, Repr

namespace Storage

def ofName? : String → Option Storage
  | "unix" | "unix-excl" => some .logged
  | "unix-none" | "unix-dotfile" => some .unlogged
  | "memdb" => some .memory
  | _ => none

end Storage

structure Wish where
  path : Octets
  access : Access
  storage : Storage
  /-- Whether nobody changes the file. -/
  immutable : Bool
deriving DecidableEq, Repr

/-- The ways in which a cache is used. -/
def caches : List String := ["shared", "private"]

/-- What an address asks for, if it can be had. -/
def wish? (a : DatabaseAddress) : Option Wish := do
  let access ← (a.values "mode").foldlM Access.narrow .create
  let storage ← ((a.values "vfs").getLast?.map Storage.ofName?).getD (some .logged)
  let storage := if storage = .logged ∧ a.isOn "nolock" then .unlogged else storage
  if (a.values "cache").all (· ∈ caches) then
    return { path := a.path, access, storage, immutable := a.isOn "immutable" }
  else none

namespace Wish

/-- Whether the path names no file. -/
def isNameless (w : Wish) : Bool :=
  w.access = .memory || w.path = [] || w.path = Text.Utf8.ofString ":memory:"

/-- Whether the database is gone when it is closed. -/
def isPrivate (w : Wish) : Bool :=
  w.isNameless || w.storage = .memory

/-- Whether nothing can be written. -/
def isReadOnly (w : Wish) : Bool :=
  w.access = .readOnly || (w.immutable && !w.isNameless)

end Wish

end DatabaseAddress

end ClaimTracker
