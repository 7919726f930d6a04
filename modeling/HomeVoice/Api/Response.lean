import HomeVoice.Codec.Validation

/-!
# Responses

A response has a document, a text or nothing as its body. A request that cannot be read at all is
refused before anything is done for it.
-/

namespace HomeVoice.Api

open Json (Value)

/-- The body of a response. -/
inductive Body where
  | empty
  | document (value : Value)
  | text (content : String)
  deriving Repr

/-- A response. -/
structure Response where
  status : Nat
  contentType : Option String
  body : Body
  deriving Repr

/-- What a request gets. -/
inductive Answer where
  | response (response : Response)
  /-- The request cannot be read. -/
  | refused (status : Nat)
  deriving Repr

/-- A response without a body. -/
def Response.bare (status : Nat) : Response := ⟨status, none, .empty⟩

/-- A response with a document. -/
def Response.document (status : Nat) (value : Value) : Response :=
  ⟨status, some "application/json", .document value⟩

/-- A response with a text. -/
def Response.plain (content : String) : Response :=
  ⟨200, some "text/plain; charset=utf-8", .text content⟩

/-- The status that says who has to react to an error. -/
def statusOf : Error → Nat
  | .configuration _ => 400
  | .conflict _ => 409
  | .semantic _ => 422
  | .notFound _ _ => 404
  | .external (.timeout _ _) => 504
  | .external (.failed _) => 502
  | .integrity _ | .storage _ => 500

/-- What a response says of an error; nothing of one that is none of the client's business. -/
def errorText : Error → String
  | .integrity _ | .storage _ => "internal server error"
  | error => error.message

/-- The conflicts of an error. -/
def conflictsOf : Error → List Conflict
  | .conflict conflicts => conflicts
  | _ => []

/-- The response to an error. -/
def Response.ofError (error : Error) : Response :=
  .document (statusOf error) (.object (("error", .string (errorText error)) ::
    (if (conflictsOf error).isEmpty then []
      else [("conflicts", .ofList Conflict.encode (conflictsOf error))])))

/-- A response from what a call gave. -/
def Response.ofResult {α : Type} (status : Nat) (encode : α → Value) :
    Except Error α → Response
  | .ok value => .document status (encode value)
  | .error error => .ofError error

end HomeVoice.Api
