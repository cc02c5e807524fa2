import ReleaseLine.Pending

/-!
How far an exchange has got. The wait for the head of a response is limited once the whole request
has been handed over. A body is handed over in chunks, and it counts as sent when a chunk is asked
for past the last one.
-/

namespace ReleaseLine

inductive Stage where
  | connecting
  | sendingBody
  | awaitingResponse
deriving DecidableEq

def Stage.rank : Stage → Nat
  | .connecting => 0
  | .sendingBody => 1
  | .awaitingResponse => 2

structure Progress where
  hasBody : Bool
  stage : Stage := .connecting
deriving DecidableEq

namespace Progress

/-- Go on to a stage, unless the exchange has got there. -/
def advance (p : Progress) (next : Stage) : Progress :=
  if p.stage.rank < next.rank then { p with stage := next } else p

def connected (p : Progress) : Progress :=
  p.advance (if p.hasBody then .sendingBody else .awaitingResponse)

def bodySent (p : Progress) : Progress := p.advance .awaitingResponse

def isHandedOver (p : Progress) : Bool := p.stage = .awaitingResponse

end Progress

/-- The number of bytes in every chunk of a body but the last. -/
def chunkSize : Nat := 65536

/-- What is left of a body, which notes when it has been sent. -/
structure TrackedBody where
  chunks : List ByteArray
  progress : Progress

namespace TrackedBody

def ofBytes (bytes : ByteArray) (progress : Progress) : TrackedBody where
  chunks := (List.range ((bytes.size + chunkSize - 1) / chunkSize)).map fun i =>
    bytes.extract (i * chunkSize) ((i + 1) * chunkSize)
  progress := progress

/-- The next chunk and what is left then. -/
def next (body : TrackedBody) : Option ByteArray × TrackedBody :=
  match body.chunks with
  | chunk :: rest => (some chunk, { body with chunks := rest })
  | [] => (none, { body with progress := body.progress.bodySent })

theorem length_of_next {body rest : TrackedBody} {chunk : ByteArray}
    (h : body.next = (some chunk, rest)) : rest.chunks.length < body.chunks.length := by
  rcases body with ⟨chunks, progress⟩
  cases chunks with
  | nil => cases h
  | cons first later =>
      cases h
      exact Nat.lt_succ_self _

/-- Hand chunks over, and tell how far the exchange has got with that. A connection asks for no
more chunks once it has as many bytes as it was told to expect; where it was told nothing, it asks
until there is no chunk left. -/
def handOver (expected : Option Nat) (body : TrackedBody) : List ByteArray × Progress :=
  if expected = some 0 then ([], body.progress)
  else
    match _ : body.next with
    | (none, rest) => ([], rest.progress)
    | (some chunk, rest) =>
      let (chunks, progress) := rest.handOver (expected.map (· - chunk.size))
      (chunk :: chunks, progress)
termination_by body.chunks.length
decreasing_by exact length_of_next ‹_›

end TrackedBody

namespace Progress

/-- Hand a body over to a connection, which is told its length. -/
def transmit (p : Progress) (body : Option ByteArray) : Progress :=
  body.elim p fun bytes => ((TrackedBody.ofBytes bytes p).handOver (some bytes.size)).2

@[simp] theorem transmit_none (p : Progress) : p.transmit none = p := rfl

/-- When the request has been handed over, if ever, given when connections are established. Every
one is noted; the first one takes the body, and those to which redirects lead take none. -/
def handedOver (p : Progress) (body : Option ByteArray) : List Nat → Pending Unit
  | [] => .never
  | moment :: later =>
    let p := p.connected.transmit body
    if p.isHandedOver then .arrives moment () else p.handedOver none later

end Progress

end ReleaseLine
