import Ghostwriter.Cache.Event
import Ghostwriter.Failure.Basic

/-!
The cache of responses: a folder with one file for each key. A record is never changed, only
discarded. The folder is made when the first record is stored.
-/

namespace Ghostwriter

open Ghostwriter.Text

-- A cache with the counts of its own lookups.
structure Cache where
  folder : Path
  hits : Nat
  misses : Nat
  deriving DecidableEq, Repr

namespace Cache

def ofFolder (folder : Path) : Cache := ⟨folder, 0, 0⟩

def isKeyChar (c : Char) : Bool := ('0' ≤ c && c ≤ '9') || ('a' ≤ c && c ≤ 'f')

-- A key has 64 hexadecimal digits in lower case. A line feed may follow them.
def isKey (t : Text) : Bool :=
  (t.take 64).length = 64 && (t.take 64).all isKeyChar && (t.drop 64 = [] || t.drop 64 = ['\n'])

-- The place of the record for a key.
def pathFor (cache : Cache) (key : Text) : Result Path :=
  if isKey key then .ok (cache.folder.child key) else .error (.crash (.malformedKey key))

def failure (p : Path) (reason : String) : Failure :=
  .ofCause (.cacheFailure p.toText reason.toList)

-- The text of the record for a key, if there is one.
def lookup (cache : Cache) (disk : Disk) (key : Text) :
    Result (Option Text) × Cache × List Event :=
  match cache.pathFor key with
  | .error e => (.error e, cache, [])
  | .ok p =>
    match disk.contents p with
    | .error e =>
      if e.problem = .missing then
        (.ok none, { cache with misses := cache.misses + 1 }, [.cacheMiss key])
      else (.error (failure p e.message), cache, [])
    | .ok content =>
      match decode content with
      | .error e => (.error (failure p e.message), cache, [])
      | .ok t => (.ok (some t), { cache with hits := cache.hits + 1 }, [.cacheHit key])

-- Writes the record for a key, and makes the folder first.
def write (cache : Cache) (disk : Disk) (p : Path) (key t : Text) :
    Result Path × Disk × List Event :=
  match disk.makeFolders cache.folder with
  | (some e, disk) => (.error (failure p e.message), disk, [])
  | (none, disk) =>
    match disk.writeFile p (encode t) with
    | .error e => (.error (failure p e.message), disk, [])
    | .ok disk => (.ok p, disk, [.recordStored key t.length])

-- Keeps a text under a key, unless there is a record already.
def store (cache : Cache) (disk : Disk) (key t : Text) : Result Path × Disk × List Event :=
  match cache.pathFor key with
  | .error e => (.error e, disk, [])
  | .ok p =>
    match disk.pathExists p with
    | .error e => (.error (.crash (.disk e)), disk, [])
    | .ok true => (.ok p, disk, [.recordKept key])
    | .ok false => cache.write disk p key t

-- The keys of all records, in ascending order.
def entries (cache : Cache) (disk : Disk) : Result (List Text) :=
  match disk.isFolder cache.folder with
  | .error e => .error (.crash (.disk e))
  | .ok false => .ok []
  | .ok true =>
    match disk.names cache.folder with
    | .error e => .error (failure cache.folder e.message)
    | .ok names => .ok ((names.filter isKey).mergeSort fun a b => !b.lex a)

-- Removes the record for a key. Whether there was one.
def discard (cache : Cache) (disk : Disk) (key : Text) : Result Bool × Disk × List Event :=
  match cache.pathFor key with
  | .error e => (.error e, disk, [])
  | .ok p =>
    match disk.unlink p with
    | .ok disk => (.ok true, disk, [.recordDiscarded key])
    | .error e =>
      if e.problem = .missing then (.ok false, disk, [])
      else (.error (failure p e.message), disk, [])

structure Stats where
  hits : Nat
  misses : Nat
  size : Nat
  deriving DecidableEq, Repr

def stats (cache : Cache) (disk : Disk) : Result Stats := do
  let keys ← cache.entries disk
  .ok ⟨cache.hits, cache.misses, keys.length⟩

end Cache

end Ghostwriter
