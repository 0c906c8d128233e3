import AgentFlow.Api.Answer

/-!
# Pages of other origins

Which pages may use the interface: those of every origin, or those of listed ones. A browser asks
before it lets a page send a request; such a question is answered without looking at the path.
-/

namespace AgentFlow.Api

open Http Time

/-- The origins whose pages may use the interface. -/
inductive Origins where
  | every
  | listed (origins : List String)
deriving DecidableEq, Repr

namespace Origins

/-- The policy for origins that settings give. Those that no header field can hold are passed over,
and if none is left every origin is meant. The wildcard cannot be one of a list. -/
def ofSettings? (origins : List String) : Option Origins :=
  match origins.filter isFieldValue with
  | [] => some every
  | usable => if "*" ∈ usable then none else some (listed usable)

/-- The fields that admit the page a request comes from. -/
def admission (policy : Origins) (r : Request) : List HeaderField :=
  match policy, r.field? "origin" with
  | every, _ => [("access-control-allow-origin", "*")]
  | listed origins, some origin =>
    if origin ∈ origins then [("access-control-allow-origin", origin)] else []
  | listed _, none => []

/-- The fields that the answer depends on. -/
def vary : HeaderField :=
  ("vary", "origin, access-control-request-method, access-control-request-headers")

/-- The fields by which a page may read all fields of an answer. -/
def exposure : Origins → List HeaderField
  | every => [("access-control-expose-headers", "*")]
  | listed _ => []

/-- The answer to a browser that asks whether a page may send a request. -/
def permission (policy : Origins) (r : Request) : Response :=
  .empty 200 <|
    policy.admission r ++
      [vary, ("access-control-allow-methods", "*"), ("access-control-allow-headers", "*")]

end Origins

variable {σ : Type}

/-- Answers a request that may come from a page of another origin. -/
def answerFrom (policy : Origins) (worker : Worker σ) (now : Instant) (r : Request) (store : Store)
    (memory : σ) : Response × Store × σ :=
  if r.method = .options then (policy.permission r, store, memory)
  else
    let (response, store, memory) := answer worker now r store memory
    let fields := response.fields ++ policy.admission r ++ [Origins.vary] ++ policy.exposure
    ({ response with fields }, store, memory)

end AgentFlow.Api
