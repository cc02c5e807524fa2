import ReleaseLine.Certificate
import ReleaseLine.Http.Request
import ReleaseLine.Pending

/-!
What a client may meet on the network: whether anything can be reached, how tunnels to secure
servers are set up, and how the requests that arrive are replied to, one after the other. Every
step takes some time, if only a nanosecond.
-/

namespace ReleaseLine

structure Reply where
  /-- The time until it takes the body of the request, in nanoseconds. -/
  patience : Nat := 0
  takesBody : Bool := true
  /-- What it sends, each piece after some time. -/
  pieces : List (Nat × List UInt8) := []
  closes : Bool := true

/-- What comes of connecting to a host, or of having a tunnel set up. -/
inductive Setup where
  | opens
  | silent
  | rejects
deriving DecidableEq

structure Tunnel where
  setup : Setup := .opens
  handshakes : Bool := true
  certificate : Option Certificate := none

/-- A request as it arrives, without a body if the server does not take it. -/
structure Receipt where
  method : Http.Method
  target : String
  fields : Headers
  body : Option ByteArray

structure Network where
  /-- Connecting to a host, whatever the scheme. -/
  connection : Setup := .opens
  tunnel : Tunnel := {}
  /-- Replies in turn, the last one over and over. -/
  replies : List Reply := []
  /-- The date, in the digits by which certificates expire. -/
  date : List UInt8 := []

namespace Network

/-- The reply where none is laid down: a good and empty response. -/
def emptyReply : Reply where
  pieces := [(0, Http.writeHead 200 [] 0)]

def reply (n : Network) : Reply := n.replies.head?.getD emptyReply

def advance (n : Network) : Network :=
  match n.replies with
  | _ :: next :: rest => { n with replies := next :: rest }
  | _ => n

/-- Whether the handshake with a host succeeds: an anchor vouches for the certificate, which has not
expired and names the host. -/
def isTrusted (n : Network) (trusted : List Anchor) (host : String) : Bool :=
  n.tunnel.certificate.any fun c =>
    trusted.any (·.vouchesFor c) && c.names host && c.isValidAt n.date

/-- Connecting to the host of a URL from a moment on, without a limit. -/
def attempt (n : Network) (trusted : List Anchor) (url : Url) (start : Nat) :
    Pending (Except TransportFault Unit) :=
  let failed : Pending (Except TransportFault Unit) :=
    .arrives (start + 1) (.error { connect := true })
  let host := (url.host?.map Url.Host.render).getD ""
  match n.connection with
  | .silent => .never
  | .rejects => failed
  | .opens =>
    if url.scheme ≠ "https" then .arrives (start + 1) (.ok ())
    else
      match n.tunnel.setup with
      | .silent => .never
      | .rejects => failed
      | .opens =>
        if !n.tunnel.handshakes then .never
        else if n.isTrusted trusted host then .arrives (start + 1) (.ok ())
        else failed

def connect (n : Network) (trusted : List Anchor) (limit : Duration) (url : Url)
    (start : Nat) : Nat × Except TransportFault Unit :=
  (n.attempt trusted url start).limit (start + limit.nanoseconds)
    (.error { connect := true, timeout := true })

end Network

/-- The bytes that have come in by some moment and not been read, and what is still to come. -/
structure Stream where
  moment : Nat
  bytes : List UInt8
  later : List (Nat × List UInt8)
  closes : Bool

namespace Stream

variable {α : Type}

/-- Read as soon as enough has come in, from bytes that are there at some moment; the reader is
told whether the connection is closed. -/
def readFrom (read : List UInt8 → Bool → Http.Reading α) (closes : Bool) (moment : Nat)
    (bytes : List UInt8) :
    List (Nat × List UInt8) → Pending (Except TransportFault (α × Stream))
  | [] =>
    match read bytes closes with
    | .done value rest => .arrives moment (.ok (value, ⟨moment, rest, [], closes⟩))
    | .malformed => .arrives moment (.error {})
    | .more => if closes then .arrives moment (.error {}) else .never
  | (delay, piece) :: later =>
    match read bytes false with
    | .done value rest =>
      .arrives moment (.ok (value, ⟨moment, rest, (delay, piece) :: later, closes⟩))
    | .malformed => .arrives moment (.error {})
    | .more => readFrom read closes (moment + delay) (bytes ++ piece) later

def read (s : Stream) (reader : List UInt8 → Bool → Http.Reading α) :
    Pending (Except TransportFault (α × Stream)) :=
  readFrom reader s.closes s.moment s.bytes s.later

end Stream

end ReleaseLine
