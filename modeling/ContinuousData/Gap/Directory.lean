import ContinuousData.Error
import ContinuousData.Text.Field
import ContinuousData.Text.Quoted

/-! A directory of text files, which may also hold directories. The system decides which names it
takes, and whether it carries out what it is asked for. -/
namespace ContinuousData

inductive DirectoryEntry where
  | file (text : String)
  | directory
  deriving DecidableEq, Repr

/-- Most systems take names of up to 255 bytes. -/
def isCommonName (name : String) : Bool :=
  Text.size name ≤ 255

structure Directory where
  /-- The path that messages show. -/
  path : String
  entries : List (String × DirectoryEntry) := []
  /-- The names that the system takes for files here, which hangs on the length of the path, too. -/
  accepts : String → Bool := isCommonName

/-- Where the system can fail when a file is to be replaced by a new one: at opening the new one, at
writing it when so many characters have been written, or at giving it the other one's name. -/
inductive FileFault where
  | opening
  | writing (count : Nat)
  | replacing
  deriving DecidableEq, Repr

namespace Directory

def get? (dir : Directory) (name : String) : Option DirectoryEntry :=
  dir.entries.lookup name

def erase (dir : Directory) (name : String) : Directory :=
  { dir with entries := dir.entries.filter (·.1 ≠ name) }

def insert (dir : Directory) (name : String) (entry : DirectoryEntry) : Directory :=
  { dir with entries := (name, entry) :: (dir.erase name).entries }

def checkName (dir : Directory) (name : String) : Except Error Unit :=
  if dir.accepts name then return else throw .fileNameTooLong

def read (dir : Directory) (name : String) : Except Error String := do
  dir.checkName name
  match dir.get? name with
  | none => throw .noSuchFile
  | some .directory => throw .isDirectory
  | some (.file text) => return text

def write (dir : Directory) (name text : String) : Except Error Directory := do
  dir.checkName name
  if dir.get? name = some .directory then throw .isDirectory
  return dir.insert name (.file text)

def makeDirectory (dir : Directory) (name : String) : Except Error Directory := do
  dir.checkName name
  if (dir.get? name).isSome then throw .fileExists
  return dir.insert name .directory

def remove (dir : Directory) (name : String) : Except Error Directory := do
  dir.checkName name
  match dir.get? name with
  | none => throw .noSuchFile
  | some .directory => throw .isDirectory
  | some (.file _) => return dir.erase name

/-- Gives a file another name, and replaces what had that name unless it is a directory. -/
def rename (dir : Directory) (source target : String) : Except Error Directory := do
  let text ← dir.read source
  dir.checkName target
  if dir.get? target = some .directory then throw .isDirectory
  return (dir.erase source).insert target (.file text)

/-- Writes a file while the system may fail. The file is emptied when it is opened, so that what is
left when writing fails is the part of the text that has been written. -/
def tryWrite (dir : Directory) (fault : Option FileFault) (name text : String) :
    Except Error Unit × Directory :=
  match dir.write name text with
  | .error reason => (.error reason, dir)
  | .ok written =>
    match fault with
    | some .opening => (.error .ioFailed, dir)
    | some (.writing count) =>
      (.error .ioFailed, dir.insert name (.file (.ofList (text.toList.take count))))
    | some .replacing | none => (.ok (), written)

/-- Renames a file while the system may fail. All is done at once, or nothing. -/
def tryRename (dir : Directory) (fault : Option FileFault) (source target : String) :
    Except Error Directory :=
  if fault = some .replacing then throw .ioFailed else dir.rename source target

/-- All names, in ascending order. -/
def names (dir : Directory) : List String :=
  (dir.entries.map (·.1)).mergeSort fun a b => a ≤ b

/-- The path of a name, as messages show it. -/
def quotedPath (dir : Directory) (name : String) : String :=
  Text.quoted (dir.path ++ "/" ++ name)

end Directory

end ContinuousData
