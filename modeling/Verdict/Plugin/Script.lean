import Verdict.Plugin.Registry
import Verdict.Result.Basic
import Verdict.Value.Display

/-!
# Plugins: scripts

Plugins described by data instead of code. Each fact and operator has a kind, which says what it
answers, and further fields for that kind.
-/

namespace Verdict.Script

/-- The text in a field, or another text if there is none. -/
def textOr (script : Value) (field other : String) : String :=
  ((script.field? field).bind Value.text?).getD other

/-- The value in a field, or the absent value. -/
def valueIn (script : Value) (field : String) : Value :=
  (script.field? field).getD .null

/-- The items of a list in a field. -/
def itemsIn (script : Value) (field : String) : List Value :=
  ((script.field? field).bind Value.items?).getD []

/-- The failure that a script asks for. The message of a failed look-up is shown in quotation
marks. -/
def failure (script : Value) : Failure :=
  let label := textOr script "exception" "RuntimeError"
  let message := textOr script "message" ""
  ⟨label, if label == "KeyError" then Text.quoted message else message⟩

/-- What a scripted fact answers. -/
def answer (script : Value) (params : Option (Table String Value)) (ctx : Context) : Answer :=
  match textOr script "kind" "" with
  | "value" => { outcome := .ok (valueIn script "value") }
  | "raise" => { outcome := .error (failure script) }
  | "params" => { outcome := .ok (.ofOption .ofTable params) }
  | "manifest" =>
    { outcome := .ok ((ctx.project.manifest.get? (textOr script "key" "")).getD .null) }
  | "target" => { outcome := .ok (.text ctx.target) }
  | "options" => { outcome := .ok (.ofOption Options.toValue ctx.options) }
  | "publish" =>
    { outcome := .ok .null
      published := [(textOr script "as" "", valueIn script "value")] }
  | _ => { outcome := .ok .null }

/-- A scripted fact. -/
def fact (script : Value) : Fact where
  name := textOr script "name" ""
  description := textOr script "description" ""
  calculate := fun params ctx _ => answer script params ctx

/-- What a scripted operator answers. -/
def test (script a b : Value) : Except Failure Value :=
  match textOr script "kind" "" with
  | "raise" => .error (failure script)
  | "first" => .ok a
  | "second" => .ok b
  | _ => .ok (valueIn script "value")

/-- A scripted operator. -/
def operator (script : Value) : Operator where
  name := textOr script "name" ""
  description := textOr script "description" ""
  evaluate := test script

/-- A scripted plugin. -/
def plugin (script : Value) : Plugin :=
  let bundle := Plugin.ofLists (textOr script "name" "") (textOr script "version" "0.0.0") ""
    ((itemsIn script "facts").map fact) ((itemsIn script "operators").map operator)
  let setup := valueIn script "init"
  { bundle with
    waits := textOr setup "kind" "" == "gate"
    prepare := fun _ =>
      if textOr setup "kind" "" == "raise" then .error (failure setup) else .ok () }

end Verdict.Script
