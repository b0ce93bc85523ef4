import ContinuousData.Gap.Directory
import ContinuousData.Gap.Record
import ContinuousData.Gap.Store

/-! A store in a directory: one file for each station, in any format for gap states. A state is
written to another file first, which then takes the station's name, so that no file is ever half
written. -/
namespace ContinuousData

structure FileStore (format : StateFormat := .yaml) where
  directory : Directory

namespace FileStore

variable {format : StateFormat}

def empty (path : String) (format : StateFormat := .yaml) : FileStore format := ⟨{ path }⟩

/-- Letters, digits, underscores and hyphens. -/
def isStationChar (c : Char) : Bool :=
  c.isAlphanum || c = '_' || c = '-'

def isStationName (station : String) : Bool :=
  station ≠ "" && station.toList.all isStationChar

def fileName (station : String) : String :=
  station ++ ".yaml"

def temporaryName (station : String) : String :=
  "." ++ station ++ ".yaml.tmp"

def checkName (station : String) : Except Error Unit :=
  if isStationName station then return else throw (.stationNotAFileName (Text.quoted station))

def load (store : FileStore format) (station : String) : Except Error (Option GapState) := do
  checkName station
  let path := store.directory.quotedPath (fileName station)
  match store.directory.read (fileName station) with
  | .error .noSuchFile => return none
  | .error _ => throw (.readingFailed path)
  | .ok text =>
    match format.read? text with
    | some state => return some state
    | none => throw (.parsingFailed path)

/-- Stores a state while the system may fail at a step. -/
def trySave (store : FileStore format) (fault : Option FileFault) (station : String)
    (state : GapState) : Except Error Unit × FileStore format :=
  match checkName station with
  | .error reason => (.error reason, store)
  | .ok () =>
    match format.write state with
    | .error reason => (.error reason, store)
    | .ok text =>
      let quotedPath := store.directory.quotedPath
      match store.directory.tryWrite fault (temporaryName station) text with
      | (.error _, left) => (.error (.writingFailed (quotedPath (temporaryName station))), ⟨left⟩)
      | (.ok (), written) =>
        match written.tryRename fault (temporaryName station) (fileName station) with
        | .error _ =>
          (.error (.renamingFailed (quotedPath (temporaryName station))
            (quotedPath (fileName station))), ⟨written⟩)
        | .ok renamed => (.ok (), ⟨renamed⟩)

def save (store : FileStore format) (station : String) (state : GapState) :
    Except Error Unit × FileStore format :=
  store.trySave none station state

def remove (store : FileStore format) (station : String) :
    Except Error Unit × FileStore format :=
  match checkName station with
  | .error reason => (.error reason, store)
  | .ok () =>
    match store.directory.remove (fileName station) with
    | .error .noSuchFile => (.ok (), store)
    | .error _ => (.error (.removingFailed (store.directory.quotedPath (fileName station))), store)
    | .ok directory => (.ok (), ⟨directory⟩)

instance : GapStore (FileStore format) where
  load store station := (store.load station, store)
  store := save
  remove := remove

end FileStore

end ContinuousData
