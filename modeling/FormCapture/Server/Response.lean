import FormCapture.Request.Basic

/-! # Responses

What a connection is answered with: a status and a plain text. The head of a response depends only on
the status and on the length of the text in bytes. -/

namespace FormCapture

structure Response where
  status : Status
  body : Text
  deriving DecidableEq, Repr

namespace Response

def length (r : Response) : Nat := (Utf8.encode r.body).length

def serverName : String := "mimewire/0.3.1"

/-- The lines before the text, each with its line end. -/
def head (status : Status) (length : Nat) : Text :=
  ("HTTP/1.1 " ++ toString status.code ++ " " ++ status.reason ++ "\r\n" ++
    "Server: " ++ serverName ++ "\r\n" ++
    "Connection: close\r\n" ++
    "Content-Type: text/plain; charset=utf-8\r\n" ++
    "Content-Length: " ++ toString length ++ "\r\n\r\n").toList

def render (r : Response) : Text := head r.status r.length ++ r.body

def ofRequest (request : Request) : Response := ⟨⟨200, "OK"⟩, request.render⟩

def ofError (e : Error) : Response := ⟨e.status, e.message.toList ++ ['\n']⟩

end Response

end FormCapture
