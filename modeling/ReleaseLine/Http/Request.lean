import ReleaseLine.Failure
import ReleaseLine.Http.Address
import ReleaseLine.Http.Response

namespace ReleaseLine.Http

inductive Method where
  | get
  | post
deriving DecidableEq

def Method.name : Method → String
  | .get => "GET"
  | .post => "POST"

structure Request where
  method : Method
  url : Url
  /-- Header lines that do not depend on the address. -/
  fields : Headers
  body : Option ByteArray
  referrer : Option Url := none

def sameHost (a b : Url) : Bool :=
  a.host? = b.host? ∧ a.effectivePort? = b.effectivePort?

/-- What a server is told of the URL that redirected to it; nothing, where that would send what
was kept in confidence in the open. -/
def refererFor (referrer url : Url) : Option String :=
  if url.scheme = "http" ∧ referrer.scheme = "https" then none else some referrer.bare.render

namespace Request

/-- The header lines that are sent: credentials do not go along to another host. -/
def sentFields (r : Request) : Headers :=
  let strange := r.referrer.any fun url => !sameHost url r.url
  let kept := if strange then r.fields.filter (·.1 ≠ "authorization") else r.fields
  let referer := (r.referrer.bind (refererFor · r.url)).toList.map ("referer", ·)
  kept ++ referer ++ [("host", (r.url.authority.map (·.hostText)).getD "")]

def asGet (r : Request) : Request :=
  { r with
    method := .get
    fields := r.fields.filter fun f => f.1 ≠ "content-type" ∧ f.1 ≠ "content-length"
    body := none }

/-- The request that a redirect asks for, still at its address. A body is not sent twice. -/
def redirected? (r : Request) (status : Nat) : Option Request :=
  if status = 301 ∨ status = 302 then some (if r.method = .post then r.asGet else r)
  else if status = 303 then some r.asGet
  else if status = 307 ∨ status = 308 then if r.body.isSome then none else some r
  else none

/-- The request that a response asks for, if it is not the final one. A redirect is followed only
where it leads to an address. -/
def next? (r : Request) (head : Head) : Option Request := do
  let again ← r.redirected? head.status
  let location ← Field.find? head.fields "location"
  let text ← String.fromUTF8? ⟨location.toArray⟩
  let url ← (r.url.join text).toOption
  if isAddress url then some { again with url := url, referrer := some r.url } else none

end Request

end ReleaseLine.Http
