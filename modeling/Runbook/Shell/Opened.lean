/-
  What the descriptors of a shell lead to.

  A pipe holds the bytes that were written to it and have not been read yet. An open file
  has a place at which the next byte is read or written; all descriptors that are copies
  of one another share it, also those of other processes.

  * `overwritten` is what a file holds after bytes are written at a place in it;
  * `Opened.unread` are the bytes that are left to be read, `Opened.leave` reads all but
    the last ones of them, and `Opened.write` writes.
-/
import Runbook.Machine.Files

namespace Runbook.Shell

/-- What a descriptor leads to. -/
inductive Opened where
  /-- Takes everything and has nothing to read. -/
  | nowhere
  | pipe (unread : Bytes)
  | file (p : Path) (place : Nat) (appends : Bool)
  /-- A file that is in no directory any more. -/
  | loose (content : Bytes) (place : Nat) (appends : Bool)

/-- A content with new bytes written over it from a place on; zeros fill what lies between
    its end and the place. -/
def overwritten (content : Bytes) (place : Nat) (new : Bytes) : Bytes :=
  content.take place ++ List.replicate (place - content.length) 0 ++ new ++
    content.drop (place + new.length)

namespace Opened

/-- Writes bytes. -/
def write (files : Files) (new : Bytes) : Opened → Files × Opened
  | nowhere => (files, nowhere)
  | pipe unread => (files, pipe (unread ++ new))
  | file p place appends =>
    let content := (files.read p).toOption.getD []
    let place := if appends then content.length else place
    match files.write p fun old => overwritten old place new with
    | .ok files => (files, file p (place + new.length) appends)
    | .error _ => (files, file p place appends)
  | loose content place appends =>
    let place := if appends then content.length else place
    (files, loose (overwritten content place new) (place + new.length) appends)

/-- The bytes that can still be read. -/
def unread (files : Files) : Opened → Bytes
  | nowhere => []
  | pipe unread => unread
  | file p place _ => ((files.read p).toOption.getD []).drop place
  | loose content place _ => content.drop place

/-- Reads all bytes but the last ones, which are left. -/
def leave (files : Files) (rest : Bytes) : Opened → Opened
  | nowhere => nowhere
  | pipe _ => pipe rest
  | file p place appends =>
    file p (place + ((unread files (file p place appends)).length - rest.length)) appends
  | loose content _ appends => loose content (content.length - rest.length) appends

/-- What is read can be given back, so that others read it. -/
def isFile : Opened → Bool
  | file _ _ _ | loose _ _ _ => true
  | _ => false

/-- Follows a file that was moved from one path to another. -/
def moved (source goal : Path) : Opened → Opened
  | file p place appends =>
    file (if source.isPrefixOf p then goal ++ p.drop source.length else p) place appends
  | o => o

/-- Keeps the content of a file that is not there any more. -/
def kept (before after : Files) : Opened → Opened
  | file p place appends =>
    if after.has p then file p place appends
    else loose ((before.read p).toOption.getD []) place appends
  | o => o

end Opened

end Runbook.Shell
