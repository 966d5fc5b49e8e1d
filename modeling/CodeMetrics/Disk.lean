import CodeMetrics.Error
import CodeMetrics.Settings.Sources
import CodeMetrics.Text.Path

/-!
# Files in memory

A tree of files and directories under a top directory. A path starts at the top, by its name, or at the root by a slash,
or else at the working directory. Nothing else is known to be under the root. Going along a path, every component but the
last has to be a directory, and `..` leads back to the directory before.

A directory is there if it was made or if something lies in it.
-/

namespace CodeMetrics

/-- A tree of files, each at the components of its path from the top, whose name is the first of them. -/
structure Disk where
  top : String
  work : List String
  entries : List (List String × Entry)

namespace Disk

/-- The greatest number of bytes in a name. -/
def nameLimit : Nat := 255

/-- The greatest number of bytes in a path. -/
def pathLimit : Nat := 4095

/-- The root as a place. -/
def root : List String := ["/"]

/-- What there is at a place. -/
def entryAt (d : Disk) (place : List String) : Entry :=
  match d.entries.find? fun (p, _) => p == place with
  | some (_, e) => e
  | none =>
    if place.isEmpty || place == root || d.entries.any fun (p, _) => place.isPrefixOf p then .directory else .absent

/-- Puts an entry at a place. -/
def put (d : Disk) (place : List String) (e : Entry) : Disk := { d with entries := (place, e) :: d.entries }

/-- What was put at a place is there. -/
theorem entryAt_put (d : Disk) (place : List String) (e : Entry) : (d.put place e).entryAt place = e := by
  simp [put, entryAt]

/-- What was put at one place leaves files at others as they are. -/
theorem entryAt_put_of_ne (d : Disk) {place other : List String} (e : Entry) (bytes : List Nat) (h : place ≠ other)
    (hf : d.entryAt other = .file bytes) : (d.put place e).entryAt other = .file bytes := by
  have hp : (place == other) = false := by simpa using h
  unfold entryAt at hf
  split at hf
  · rename_i found
    subst hf
    simp [put, entryAt, hp, found]
  · split at hf <;> simp at hf

/-- One step along a path. -/
def step (place : List String) (part : String) : List String :=
  if part = "" || part = "." then place else if part = ".." then place.dropLast else place ++ [part]

/-- Where a path starts, and its components from there on. -/
def route (d : Disk) (path : String) : List String × List String :=
  if path.startsWith d.top then ([], path.splitOn "/")
  else if path.startsWith "/" then (root, path.splitOn "/")
  else (d.work, path.splitOn "/")

/-- The place that a path leads to, whether or not there is anything on the way. -/
def place (d : Disk) (path : String) : List String :=
  let (start, parts) := d.route path
  parts.foldl step start

/-- Goes along the components of a path. -/
def follow (d : Disk) (place : List String) : List String → Entry
  | [] => d.entryAt place
  | part :: rest =>
    match d.entryAt place with
    | .directory => if nameLimit < part.utf8ByteSize then .nameTooLong else d.follow (step place part) rest
    | .absent => .absent
    | _ => .blocked

/-- What there is under a path. -/
def look (d : Disk) (path : String) : Entry :=
  if path = "" then .absent
  else if pathLimit < path.utf8ByteSize then .nameTooLong
  else
    let (start, parts) := d.route path
    d.follow start parts

/-- Makes the directories along the components of a path. -/
def makeDirectories (d : Disk) (place : List String) : List String → Except FileFault Disk
  | [] => .ok d
  | part :: rest =>
    if nameLimit < part.utf8ByteSize then .error .nameTooLong
    else
      let place := step place part
      match d.entryAt place with
      | .absent => (d.put place .directory).makeDirectories place rest
      | .directory => d.makeDirectories place rest
      | _ => .error (if rest.isEmpty then .occupied else .notDirectory)

/-- Puts an entry at a place, unless a file and a directory would be in each other's place. -/
def replace (d : Disk) (place : List String) (e : Entry) : Except FileFault Disk :=
  match d.entryAt place, e with
  | .directory, .file _ => .error .directory
  | .file _, .directory => .error .occupied
  | _, e => .ok (d.put place e)

/-- Puts an entry under a path, with the directories on the way to it. -/
def write (d : Disk) (path : String) (e : Entry) : Except Error Disk :=
  if Text.hasNull path then .error (.rejected .embeddedNull)
  else
    let path := Text.normalPath path
    let (start, parts) := d.route path
    let written : Except FileFault Disk := do
      if pathLimit < path.utf8ByteSize ∨ parts.any fun part => decide (nameLimit < part.utf8ByteSize) then
        throw .nameTooLong
      let d ← d.makeDirectories start parts.dropLast
      d.replace (d.place path) e
    written.mapError fun fault => .file fault path

end Disk

end CodeMetrics
