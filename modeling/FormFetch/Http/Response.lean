import FormFetch.Http.Failure
import FormFetch.Http.Headers

/-!
# Responses

What a server answers: a status, header fields and perhaps a body, which arrives in
chunks and may break off.

* `collect_append`: a body is read chunk by chunk, up to its first failure.
-/

namespace FormFetch.Http

/-- A part of a body, or the failure that ends it. -/
abbrev Chunk := Except Failure (List UInt8)

/-- A body as it arrives. -/
abbrev Body := List Chunk

/-- All bytes of a body, or its first failure. -/
def Body.collect : Body → Except Failure (List UInt8)
  | [] => .ok []
  | .error failure :: _ => .error failure
  | .ok bytes :: rest =>
    match collect rest with
    | .error failure => .error failure
    | .ok more => .ok (bytes ++ more)

/-- What a server answers. -/
structure Response where
  status : Nat
  headers : Headers := {}
  body : Option Body := none

namespace Response

/-- The first value of a header field, if it is text. -/
def header? (r : Response) (name : String) : Option String :=
  (r.headers.get? name).bind fieldText?

/-- The media type of the body. -/
def contentType? (r : Response) : Option String :=
  r.header? "content-type"

/-- The body, which can be taken once, and the response without it. -/
def takeBody (r : Response) : Option Body × Response :=
  (r.body, { r with body := none })

/-- All bytes of the body; a response without one has none. -/
def content (r : Response) : Except Failure (List UInt8) :=
  match r.body with
  | some body => body.collect
  | none => .ok []

@[simp] theorem takeBody_takeBody (r : Response) : r.takeBody.2.takeBody.1 = none := rfl

end Response

theorem Body.collect_append (first second : Body) (bytes : List UInt8)
    (h : first.collect = .ok bytes) :
    Body.collect (first ++ second) =
      (Body.collect second).map (bytes ++ ·) := by
  induction first generalizing bytes with
  | nil =>
    simp only [collect, Except.ok.injEq] at h
    subst h
    cases hs : collect second <;> simp [hs, Except.map]
  | cons chunk rest ih =>
    cases chunk with
    | error failure => simp [collect] at h
    | ok head =>
      cases hr : collect rest with
      | error failure => simp [collect, hr] at h
      | ok tail =>
        simp only [collect, hr, Except.ok.injEq] at h
        subst h
        simp only [List.cons_append, collect, ih tail hr]
        cases hs : collect second <;> simp [Except.map]

end FormFetch.Http
