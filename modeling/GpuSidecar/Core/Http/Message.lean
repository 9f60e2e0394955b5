import Mathlib.Data.Nat.Notation

/-!
# Responses and response writers

What one hop of an HTTP exchange leaves for the next one. A response writer records the
status and header of its first `WriteHeader`, explicit or implied by a write, and
ignores later ones; a handler that returns ends its response cleanly. The numbers of
calls are kept beside what the calls achieved.
-/

namespace GpuSidecar.Http

abbrev Bytes := List UInt8

/-- The UTF-8 bytes of a text. -/
def utf8 (s : String) : Bytes := s.toUTF8.data.toList

/-- Header values by canonical key. -/
abbrev Header := String → List String

def Header.empty : Header := fun _ => []

def Header.set (h : Header) (key value : String) : Header :=
  fun k => if k = key then [value] else h k

/-- Adds every value of another header except those of excluded keys. -/
def Header.addAll (h other : Header) (excluded : String → Bool) : Header :=
  fun k => if excluded k then h k else h k ++ other k

/-- A read error, and whether it is a cancellation of the reading context. -/
structure ReadError where
  text : String
  canceled : Bool
  deriving DecidableEq, Repr

/-- How a body ends for its reader. -/
inductive Ending where
  | eof
  | failed (err : ReadError)
  deriving DecidableEq, Repr

/-- A body: the bytes that can be read, and what the reader sees after them. -/
structure Body where
  data : Bytes
  ending : Ending
  deriving DecidableEq, Repr

/-- What `io.ReadAll` on a limited reader returns when its error is ignored. -/
def Body.readAll (body : Body) (limit : ℕ) : Bytes := body.data.take limit

structure Response where
  status : ℕ
  header : Header
  body : Body

/-- The outcome of a client call: an error text, or a response. -/
abbrev Reply := Except String Response

/-- A response writer with the calls made on it. -/
structure ResponseWriter where
  header : Header
  /-- The status and header sent, once there are any. -/
  committed : Option (ℕ × Header)
  body : Bytes
  headerCalls : ℕ
  writeCalls : ℕ

namespace ResponseWriter

def new : ResponseWriter where
  header := Header.empty
  committed := none
  body := []
  headerCalls := 0
  writeCalls := 0

def setHeader (w : ResponseWriter) (key value : String) : ResponseWriter :=
  { w with header := w.header.set key value }

/-- Sends a status and the current header unless one was sent. -/
def commit (w : ResponseWriter) (status : ℕ) : ResponseWriter :=
  { w with committed := w.committed.or (some (status, w.header)) }

def writeHeader (w : ResponseWriter) (status : ℕ) : ResponseWriter :=
  { w.commit status with headerCalls := w.headerCalls + 1 }

def write (w : ResponseWriter) (data : Bytes) : ResponseWriter :=
  { w.commit 200 with body := w.body ++ data, writeCalls := w.writeCalls + 1 }

/-- A write that fails. -/
def failWrite (w : ResponseWriter) : ResponseWriter := { w with writeCalls := w.writeCalls + 1 }

/-- A write whose result the caller does not look at. -/
def writeIgnored (w : ResponseWriter) (fails : Bool) (data : Bytes) : ResponseWriter :=
  if fails then w.failWrite else w.write data

/-- The response that the peer reads after the handler has returned. -/
def finish (w : ResponseWriter) : Response where
  status := (w.commit 200).committed.elim 200 Prod.fst
  header := (w.commit 200).committed.elim Header.empty Prod.snd
  body := ⟨w.body, .eof⟩

@[simp] theorem setHeader_headerCalls (w : ResponseWriter) (key value : String) :
    (w.setHeader key value).headerCalls = w.headerCalls := rfl

@[simp] theorem writeHeader_headerCalls (w : ResponseWriter) (status : ℕ) :
    (w.writeHeader status).headerCalls = w.headerCalls + 1 := rfl

/-- The first `WriteHeader` sends its status. -/
theorem writeHeader_committed {w : ResponseWriter} (h : w.committed = none) (status : ℕ) :
    (w.writeHeader status).committed = some (status, w.header) := by
  simp [writeHeader, commit, h]

@[simp] theorem write_headerCalls (w : ResponseWriter) (data : Bytes) :
    (w.write data).headerCalls = w.headerCalls := rfl

@[simp] theorem failWrite_headerCalls (w : ResponseWriter) :
    w.failWrite.headerCalls = w.headerCalls := rfl

/-- A write after the status was sent does not change what was sent. -/
theorem write_committed {w : ResponseWriter} {sent : ℕ × Header} (h : w.committed = some sent)
    (data : Bytes) : (w.write data).committed = some sent := by
  simp [write, commit, h]

@[simp] theorem writeIgnored_headerCalls (w : ResponseWriter) (fails : Bool) (data : Bytes) :
    (w.writeIgnored fails data).headerCalls = w.headerCalls := by
  cases fails <;> rfl

/-- Nor does a write that may fail. -/
theorem writeIgnored_committed {w : ResponseWriter} {sent : ℕ × Header}
    (h : w.committed = some sent) (fails : Bool) (data : Bytes) :
    (w.writeIgnored fails data).committed = some sent := by
  cases fails with
  | false => exact write_committed h data
  | true => exact h

/-- What such a write adds to the body. -/
theorem writeIgnored_body (w : ResponseWriter) (fails : Bool) (data : Bytes) :
    (w.writeIgnored fails data).body = w.body ++ if fails then [] else data := by
  cases fails with
  | false => rfl
  | true => exact (List.append_nil _).symm

/-- The peer reads the status that was sent. -/
theorem finish_status {w : ResponseWriter} {sent : ℕ × Header} (h : w.committed = some sent) :
    w.finish.status = sent.1 := by
  simp [finish, commit, h]

@[simp] theorem finish_body (w : ResponseWriter) : w.finish.body = ⟨w.body, .eof⟩ := rfl

end ResponseWriter

/-- What the peer of a response writer and the request's context do during a relay. -/
structure Downstream where
  /-- Whether the writer can flush. -/
  flusher : Bool
  /-- Whether the write of a given number fails. -/
  writeFails : ℕ → Bool
  /-- Whether the context is done when checked after a given number of reads. -/
  ctxDone : ℕ → Bool
  /-- Whether the context has an error when a read fails. -/
  ctxErr : Bool

/-- What is left after a number of writes and as many checks. -/
def Downstream.after (d : Downstream) (n : ℕ) : Downstream :=
  { d with writeFails := fun j => d.writeFails (n + j), ctxDone := fun k => d.ctxDone (n + k) }

theorem Downstream.after_zero (d : Downstream) : d.after 0 = d := by
  simp [after]

theorem Downstream.after_after (d : Downstream) (m n : ℕ) :
    (d.after m).after n = d.after (m + n) := by
  simp [after, Nat.add_assoc]

/-- A peer that stays connected to the end. -/
def Downstream.steady : Downstream where
  flusher := true
  writeFails := fun _ => false
  ctxDone := fun _ => false
  ctxErr := false

end GpuSidecar.Http
