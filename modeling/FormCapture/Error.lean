import FormCapture.Text.Basic

/-! # Errors

Everything that can go wrong, as causes, with the text that reports each (`Error.message`) and the
status that a connection is answered with (`Error.status`). `Error.isFraming` singles out the faults
of a request's framing: its header block, its declared length, its boundary, its parts. -/

namespace FormCapture

inductive SystemFault
  | brokenPipe
  | addressInUse
  | addressNotAvailable
  | permissionDenied
  | isDirectory
  | nameNotKnown
  | nulInName
  | invalidUtf8
  | other (description : String)
  deriving DecidableEq, Repr

def SystemFault.message : SystemFault → String
  | brokenPipe => "Broken pipe (os error 32)"
  | addressInUse => "Address already in use (os error 98)"
  | addressNotAvailable => "Cannot assign requested address (os error 99)"
  | permissionDenied => "Permission denied (os error 13)"
  | isDirectory => "Is a directory (os error 21)"
  | nameNotKnown => "failed to lookup address information: Name or service not known"
  | nulInName => "file name contained an unexpected NUL byte"
  | invalidUtf8 => "stream did not contain valid UTF-8"
  | other description => description

inductive Error
  | io (fault : SystemFault)
  | addressSyntax
  | badRequest
  /-- The peer closed or went quiet before the header block was complete. -/
  | connectionClosed
  /-- The peer closed or went quiet before the declared body was complete. -/
  | shortRead (expected received : Nat)
  | malformedMultipart (missing : String)
  | invalidBoundary (boundary : Text)
  | payloadTooLarge (limit : Nat)
  | headersTooLarge (limit : Nat)
  | invalidArgument (detail : String)
  | unknownFunction (name : Text)
  | invalidConfiguration (detail : String)
  | internalServerError (detail : String)
  deriving DecidableEq, Repr

structure Status where
  code : Nat
  reason : String
  deriving DecidableEq, Repr

namespace Error

def message : Error → String
  | io fault => "IO error: " ++ fault.message
  | addressSyntax => "Address parse error: invalid socket address syntax"
  | badRequest => "Bad request"
  | connectionClosed => "Connection closed before the request was complete"
  | shortRead expected received =>
    "Short read: expected " ++ toString expected ++ " bytes, received " ++ toString received
  | malformedMultipart missing => "Malformed multipart body: " ++ missing
  | invalidBoundary boundary => "Invalid multipart boundary '" ++ String.ofList boundary ++ "'"
  | payloadTooLarge limit =>
    "Request payload too large. Maximum allowed size: " ++ toString limit ++ " bytes"
  | headersTooLarge limit => "Request header block exceeds " ++ toString limit ++ " bytes"
  | invalidArgument detail => "Invalid argument: " ++ detail
  | unknownFunction name => "Unknown native function '" ++ String.ofList name ++ "'"
  | invalidConfiguration detail => "Invalid configuration: " ++ detail
  | internalServerError detail => "Internal server error: " ++ detail

def status : Error → Status
  | connectionClosed | shortRead _ _ => ⟨408, "Request Timeout"⟩
  | payloadTooLarge _ => ⟨413, "Payload Too Large"⟩
  | headersTooLarge _ => ⟨431, "Request Header Fields Too Large"⟩
  | badRequest | malformedMultipart _ | invalidBoundary _ => ⟨400, "Bad Request"⟩
  | _ => ⟨500, "Internal Server Error"⟩

def isFraming : Error → Bool
  | connectionClosed | shortRead _ _ | headersTooLarge _ | malformedMultipart _
  | invalidBoundary _ => true
  | _ => false

end Error

end FormCapture
