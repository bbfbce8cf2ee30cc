import GuestRuntime.Guest.Frame
import GuestRuntime.Guest.Marshal

/-!
Evaluation. The code goes to the guest as a string vector, is parsed, and the first expression is
evaluated and marshaled. A failure is explained by the guest itself: one more evaluation, of a fixed
text, fetches its last message. Where a guest shows the depth of its root stack, an evaluation that
changed it is refused, whatever it gave.
-/

namespace GuestRuntime.Dialogue

/-- What fetches the last message without its line ends. -/
def diagnosticCode : String := "gsub('\\n', '', geterrmessage())"

def unknownMessage : String := "unknown error"

/-- The expressions of a source text, of which there must be at least one. -/
def sourceExpressions (code : String) (text : Bytes) : Frame Obj := do
  let source ← Frame.root (← Frame.call (.allocStrings 1))
  Frame.call (.setString source 0 text)
  let (status, exprs) ← Frame.call (.parse source)
  let exprs ← Frame.root exprs
  if status ≠ parsedOk then
    Frame.fail (.parse code)
  let n ← Frame.call (.length exprs)
  if n = 0 then
    Frame.fail (.parse code)
  if 1 < n then
    Frame.remark (.extraExpressions n code)
  return exprs

/-- The value of the first of some expressions; `explain` finds the message of a failure. -/
def firstValue (explain : Dialogue String) (code : String) (env : Option Obj) (exprs : Obj) :
    Frame HostValue := do
  let env ← match env with
    | some env => pure env
    | none => Frame.call .globalEnv
  let expr ← Frame.call (.element exprs 0)
  let (failed, result) ← Frame.call (.tryEval expr env 0)
  let result ← Frame.root result
  if failed ≠ 0 then
    Frame.fail (.runtime (← Frame.inner explain) code)
  Frame.inner (marshal result)

/-- The evaluation of one code. -/
def evaluation (explain : Dialogue String) (code : String) (env : Option Obj) :
    Dialogue (Except Fault HostValue) := do
  remark (.evaluating code)
  match Terminated.ofText code with
  | .error _ => return .error (.parse code)
  | .ok text => Frame.close do
    firstValue explain code env (← sourceExpressions code text)

/-- The guest's last message; a failure to fetch it is not explained again. -/
def diagnostic : Dialogue String := do
  match ← evaluation (return unknownMessage) diagnosticCode none with
  | .ok (.text m) => return String.ofList (m.toList.filter (· != '\n'))
  | .ok v =>
    remark (.messageNotText v)
    return unknownMessage
  | .error f =>
    remark (.messageUnavailable f)
    return unknownMessage

/-- Evaluation between two looks at the depth of the root stack. -/
def evaluate (code : String) (env : Option Obj) : Dialogue (Except Fault HostValue) := do
  let before ← call .depth
  let result ← evaluation diagnostic code env
  match before, ← call .depth with
  | some before, some after =>
    if before = after then
      return result
    else
      remark (.imbalance before after code)
      return .error (.violation (.imbalance before after))
  | _, _ => return result

end GuestRuntime.Dialogue
