import GpuSidecar.Core.Http.Message

/-!
# What both hops write

The sidecar proxy and the router gateway strip the same hop-by-hop headers and write
the same JSON error reply (`writeErr` in `internal/dataplane/proxy.go`, `httpErr` in
`internal/router/gateway.go`). The JSON text is that of the standard encoder, which
sorts map keys and ends with a newline.
-/

namespace GpuSidecar.Hops

open Http

/-- The headers that are not relayed. -/
def hopByHop (key : String) : Bool :=
  ["Connection", "Keep-Alive", "Proxy-Authenticate", "Proxy-Authorization", "Te", "Trailers",
    "Transfer-Encoding", "Upgrade"].contains key

/-- A four-digit hexadecimal escape. -/
def jsonHex (n : ℕ) : String :=
  let digits := Nat.toDigits 16 n
  "\\u" ++ String.ofList (List.replicate (4 - digits.length) '0' ++ digits)

/-- One character of a JSON string, as the encoder escapes it. -/
def jsonChar (c : Char) : String :=
  if c = '"' then "\\\""
  else if c = '\\' then "\\\\"
  else if c.toNat = 8 then "\\b"
  else if c.toNat = 12 then "\\f"
  else if c = '\n' then "\\n"
  else if c = '\r' then "\\r"
  else if c = '\t' then "\\t"
  else if c.toNat < 32 ∨ c = '<' ∨ c = '>' ∨ c = '&' ∨ c.toNat = 0x2028 ∨ c.toNat = 0x2029 then
    jsonHex c.toNat
  else String.singleton c

def jsonString (s : String) : String := "\"" ++ String.join (s.toList.map jsonChar) ++ "\""

/-- The text of the error object. -/
def errorJson (code reqID detail : String) : String :=
  "\x7b\"error\":\x7b\"code\":" ++ jsonString code ++ ",\"message\":" ++ jsonString detail ++
    ",\"request_id\":" ++ jsonString reqID ++ "\x7d\x7d\n"

/-- Writes an error reply. -/
def errorReply (w : ResponseWriter) (status : ℕ) (code reqID detail : String) : ResponseWriter :=
  (((w.setHeader "Content-Type" "application/json").setHeader "X-Request-ID" reqID).writeHeader
    status).write (utf8 (errorJson code reqID detail))

/-- The sidecar's error reply. -/
abbrev writeErr := errorReply

/-- The router's error reply. -/
abbrev httpErr := errorReply

@[simp] theorem errorReply_headerCalls (w : ResponseWriter) (status : ℕ)
    (code reqID detail : String) :
    (errorReply w status code reqID detail).headerCalls = w.headerCalls + 1 := rfl

/-- On a writer that has sent nothing, the peer reads the status of the error reply. -/
theorem errorReply_status {w : ResponseWriter} (h : w.committed = none) (status : ℕ)
    (code reqID detail : String) :
    (errorReply w status code reqID detail).finish.status = status := by
  let headed := (w.setHeader "Content-Type" "application/json").setHeader "X-Request-ID" reqID
  have hnone : headed.committed = none := h
  have hsent := ResponseWriter.writeHeader_committed hnone status
  exact ResponseWriter.finish_status (ResponseWriter.write_committed hsent _)

end GpuSidecar.Hops
