import ClaimTracker.Keep.Address
import ClaimTracker.Keep.Disk

/-!
# A database

The document is one row of a table in a database. The length of the row is looked up before the row is
read, so that one beyond the limit is never loaded. A database in a file outlasts its opening; one
without a file is private and is lost when it is closed. Opening makes the table where there is none,
and turns a file that may be written to the use of a log; a file that uses a log cannot be used without
one, unless nobody changes it.
-/

namespace ClaimTracker

structure Database where
  disk : Disk
  path : String
  /-- The file on the disk, unless the database is private. -/
  file : Option (List Octets)
  row : Option Octets
  isReadOnly : Bool

namespace Database

/-- What an opening that fails leaves behind. -/
structure Failure where
  error : Keep.Error
  disk : Disk

def cannotOpen (disk : Disk) (path : String) : Failure :=
  ⟨.failed ("opening sqlite db at " ++ path), disk⟩

def noTable (disk : Disk) : Failure :=
  ⟨.failed "creating snapshots table", disk⟩

/-- The length of what is appended to the name of a file to name its journal. -/
def journalMark : Nat := 8

/-- Whether there can be a journal beside a file. -/
def hasJournal (file : List Octets) : Bool :=
  (file.getLast?.getD []).length + journalMark ≤ Disk.maxName

/-- The content of a file after an opening, or nothing if the opening fails. -/
def opened? (w : DatabaseAddress.Wish) (file : List Octets) :
    Option DatabaseFile → Option DatabaseFile
  | none =>
    if w.isReadOnly ∨ !hasJournal file then none else some ⟨none, w.storage = .logged⟩
  | some content =>
    if content.logged ∧ w.storage = .unlogged ∧ !w.immutable then none
    else some { content with logged := content.logged || (!w.isReadOnly && w.storage = .logged) }

/-- Opens a database in a file, which is made if it may be. -/
def openFile (disk : Disk) (path : String) (w : DatabaseAddress.Wish) (file : List Octets) :
    Except Failure Database :=
  if disk.contains file ∨ w.access = .create then
    let disk := disk.insertIfNew file none
    match opened? w file (disk[file]?).join with
    | some content => .ok ⟨disk.insert file (some content), path, some file, none, w.isReadOnly⟩
    | none => .error (noTable disk)
  else .error (cannotOpen disk path)

/-- Opens the database of an address. -/
def connect (disk : Disk) (path : String) : Except Failure Database :=
  if path.contains '\x00' then .error (cannotOpen disk path)
  else
    match (DatabaseAddress.ofText? path).bind DatabaseAddress.wish? with
    | none => .error (cannotOpen disk path)
    | some w =>
      if w.isPrivate then
        if w.isReadOnly then .error (noTable disk) else .ok ⟨disk, path, none, none, false⟩
      else
        match Disk.file? w.path with
        | some file => openFile disk path w file
        | none => .error (cannotOpen disk path)

def body (d : Database) : Option Octets :=
  match d.file with
  | some file => (d.disk[file]?).join.bind DatabaseFile.row
  | none => d.row

/-- Reads a row under a limit on its length. -/
def readRow (limit : Nat) (row : Option Octets) : Except Keep.Error (Option Octets) :=
  match row with
  | none => .ok none
  | some body => if limit < body.length then .error (.tooLarge body.length limit) else .ok (some body)

def writeRow (d : Database) (body : Octets) : Database :=
  match d.file with
  | some file =>
    { d with
      disk := d.disk.modify file fun content => content.map ({ · with row := some body }) }
  | none => { d with row := some body }

/-- Writes the row, if it may be written. -/
def put (d : Database) (body : Octets) : Except Keep.Error Unit × Database :=
  if d.isReadOnly then (.error (.failed "attempt to write a readonly database"), d)
  else (.ok (), d.writeRow body)

end Database

instance : Keep Database where
  location d := "sqlite://" ++ d.path ++ "#snapshot.json"
  held := Database.body
  get limit d := (Database.readRow limit d.body, d)
  put body d := d.put body

end ClaimTracker
