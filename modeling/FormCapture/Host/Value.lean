import FormCapture.Text.Quoted

/-! # Values

What scripts pass to native functions and get back from them, and how an error names a value. -/

namespace FormCapture

inductive Value
  | undefined
  | null
  | bool (b : Bool)
  | int (n : Int)
  | text (t : Text)
  | stream (handle : Nat)
  deriving DecidableEq, Repr

/-- A value as errors name it. -/
def Value.describe : Value → String
  | undefined => "Undefined"
  | null => "Null"
  | bool b => "Bool(" ++ toString b ++ ")"
  | int n => "Int(" ++ toString n ++ ")"
  | text t => "Text(" ++ String.ofList t.quoted ++ ")"
  | stream handle => "Stream(StreamHandle(" ++ toString handle ++ "))"

end FormCapture
