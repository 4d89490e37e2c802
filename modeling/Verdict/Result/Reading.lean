import Verdict.Result.Basic
import Verdict.Rule.Reading
import Verdict.Schema.Moment

/-!
# Results: reading

Options and results from values. A field is known by its wire name and by its own name; keys that
are neither are passed over.
-/

namespace Verdict

open Schema

/-- Options. -/
def Options.read : Value → Checked Options :=
  readRecord "SimulationOptions" fun pairs =>
    Options.mk <$> optional pairs "verbose" false readBoolean
      <*> optional pairs "timeout" none
        (nullable fun v => (readNumber v).check (aboveBound 0))
      <*> optionalAs pairs "skipAst" "skip_ast" false readBoolean

/-- The result of a leaf from its pairs. -/
def LeafResult.ofPairs (pairs : Pairs) : Checked LeafResult :=
  LeafResult.mk <$> required pairs "path" (readList readText)
    <*> requiredAs pairs "factName" "fact_name" readText
    <*> optionalAs pairs "factValue" "fact_value" .null readAny
    <*> required pairs "operator" readText
    <*> optionalAs pairs "compareValue" "compare_value" .null readAny
    <*> required pairs "result" readBoolean
    <*> optional pairs "error" none (nullable readText)
    <*> optional pairs "duration" (.zero false) readNumber
    <*> optionalAs pairs "jsonPath" "json_path" none (nullable readText)
    <*> optional pairs "params" none (nullable readObject)

/-- The result of a leaf, also from the record that stands for one. -/
def LeafResult.read : Value → Checked LeafResult
  | .record .leafResult fields => ofPairs fields
  | v => readRecord "ConditionResult" ofPairs v

/-- The end of a run. -/
def Ending.read : Value → Checked Ending :=
  readChoice (Ending.every.map fun e => (e.word, e))

/-- The result of a run. Without a timestamp it is the given one. -/
def RunResult.read (now : Moment) : Value → Checked RunResult :=
  readRecord "SimulationResult" fun pairs =>
    RunResult.mk <$> required pairs "success" readBoolean
      <*> requiredAs pairs "fileName" "file_name" readText
      <*> optional pairs "timestamp" now readMoment
      <*> optional pairs "duration" (.zero false) readNumber
      <*> optionalAs pairs "conditionResults" "condition_results" [] (readList LeafResult.read)
      <*> requiredAs pairs "finalResult" "final_result" Ending.read
      <*> optional pairs "event" none (nullable Event.read)
      <*> optional pairs "error" none (nullable readText)

end Verdict
