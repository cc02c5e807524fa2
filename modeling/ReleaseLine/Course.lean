import ReleaseLine.Network
import ReleaseLine.Progress
import ReleaseLine.Timeouts

/-!
The course of an exchange, as it would go without limits on head and whole, and what the limits
make of it. The exchange is decided at the earliest moment at which something ends it.
-/

namespace ReleaseLine

/-- When the parts of an exchange take place. Moments are counted from its start. -/
structure Course where
  /-- When connections are established, one for each request that is sent. -/
  connections : List Nat
  /-- The requests that arrive at servers, redirected ones included. -/
  receipts : List (Nat × Receipt)
  /-- The head of the final response, or what prevents it. -/
  head : Pending (Except Cause Http.Head)
  /-- The body, or what prevents it; later than the head. -/
  body : Pending (Except Cause (List UInt8))

inductive Interruption where
  | fault (cause : Cause)
  | noHead
  | overdue

namespace Course

/-- An exchange that ends before it reaches the network. -/
def failed (moment : Nat) (cause : Cause) : Course where
  connections := []
  receipts := []
  head := .arrives moment (.error cause)
  body := .never

/-- When a request with a body, or with none, has been handed over, if ever. -/
def handedOver (c : Course) (body : Option ByteArray) : Pending Unit :=
  Progress.handedOver { hasBody := body.isSome } body c.connections

/-- What ends the wait for the head. It is limited once the request has been handed over. -/
def guardedHead (c : Course) (handedOver : Pending Unit) (limit : Duration) :
    Pending (Except Interruption Http.Head) :=
  let head := c.head.map (·.mapError .fault)
  (head.race handedOver).andThen fun moment first =>
    match first with
    | .inl result => .arrives moment result
    | .inr () => .ofPair (head.limit (moment + limit.nanoseconds) (.error .noHead))

/-- What follows once the wait for the head is over: after a head, the body. -/
def complete (c : Course) (head : Pending (Except Interruption Http.Head)) :
    Pending (Except Interruption (Http.Head × List UInt8)) :=
  head.andThen fun moment result =>
    match result with
    | .error e => .arrives moment (.error e)
    | .ok head => c.body.map fun body => (body.mapError .fault).map (head, ·)

/-- The outcome of an exchange and the moment at which it is decided. -/
def settle (c : Course) (handedOver : Pending Unit) (headLimit endToEnd : Duration) :
    Nat × Except Interruption (Http.Head × List UInt8) :=
  (c.complete (c.guardedHead handedOver headLimit)).limit endToEnd.nanoseconds (.error .overdue)

end Course

namespace Network

/-- A head together with the framing of the body that it announces. -/
def readHead (bytes : List UInt8) (_ : Bool) : Http.Reading (Http.Head × Http.Framing) :=
  match Http.readHead bytes with
  | .more => .more
  | .malformed => .malformed
  | .done head rest =>
    match head.framing? with
    | none => .malformed
    | some framing => .done (head, framing) rest

/-- How a request names its address. Where there is no tunnel, it does so in full. -/
def targetOf (url : Url) : String :=
  if url.scheme = "https" then url.target else { url with fragment := none }.render

def receiptOf (r : Http.Request) (takesBody : Bool) : Receipt where
  method := r.method
  target := targetOf r.url
  fields := r.sentFields
  body := if takesBody then some (r.body.getD .empty) else none

/-- Connecting for a request that starts at some moment. Only two schemes are spoken. -/
def reach (n : Network) (trusted : List Anchor) (limit : Duration) (start : Nat)
    (url : Url) : Nat × Except TransportFault Unit :=
  if Http.isSpoken url then n.connect trusted limit url start
  else (start, .error { builder := true })

/-- The course of a request that starts at some moment, while so many redirects may still be
followed. -/
def course (trusted : List Anchor) (limit : Duration) :
    Nat → Network → Nat → Http.Request → Course
  | left, network, start, request =>
    match network.reach trusted limit start request.url with
    | (moment, .error fault) => .failed moment (.transport fault)
    | (connected, .ok ()) =>
      let reply := network.reply
      let arrival := connected + 1 + reply.patience
      let receipt := (arrival, receiptOf request reply.takesBody)
      let stream : Stream := ⟨arrival + 1, [], reply.pieces, reply.closes⟩
      let ends (head : Pending (Except Cause Http.Head))
          (body : Pending (Except Cause (List UInt8))) : Course :=
        ⟨[connected], [receipt], head, body⟩
      let fails (moment : Nat) (fault : TransportFault) : Course :=
        ends (.arrives moment (.error (.transport fault))) .never
      match stream.read readHead with
      | .never => ends .never .never
      | .arrives moment (.error fault) => fails moment fault
      | .arrives moment (.ok ((head, framing), rest)) =>
        match request.next? head, left with
        | none, _ =>
          ends (.arrives moment (.ok head))
            ((rest.read framing.read).map fun body => (body.mapError .transport).map (·.1))
        | some _, 0 => fails moment { redirect := true }
        | some again, left + 1 =>
          let later := course trusted limit left network.advance moment again
          { later with
            connections := connected :: later.connections
            receipts := receipt :: later.receipts }

def maxRedirects : Nat := 10

end Network

end ReleaseLine
