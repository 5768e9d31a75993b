import Billboard.Http.Handler

namespace Billboard.Http

def varyHeader : String × String :=
  ("vary", "origin, access-control-request-method, access-control-request-headers")

def anyOrigin : String × String := ("access-control-allow-origin", "*")

def preflight : Response where
  status := 200
  headers := [anyOrigin, varyHeader, ("access-control-allow-methods", "*"),
    ("access-control-allow-headers", "*")]

def shared (r : Response) : Response :=
  r.withHeaders [anyOrigin, varyHeader, ("access-control-expose-headers", "*")]

def timedOut : Response := .plain 408

def respond (s : Context) (r : Request) : Action Response :=
  if r.method = .options then return preflight
  else
    match Resource.ofPath? r.path with
    | none => return shared (.plain 404)
    | some resource => do return shared (← handle s r resource)

def allowHeader (r : Request) : Headers :=
  match Resource.ofPath? r.path with
  | none => []
  | some resource => if resource.takes r.method then [] else [("allow", resource.allow)]

def finish (r : Request) (response : Response) : Response :=
  let response := response.withHeaders (allowHeader r)
  if r.method = .head then { response with body := "" } else response

end Billboard.Http
