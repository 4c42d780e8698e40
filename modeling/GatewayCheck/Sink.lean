/-!
Storage sinks. A document goes to the store that the running gateway reads, which refuses unknown
top-level fields, or to the draft store, which keeps them.
-/
namespace GatewayCheck

/-- The destinations of a checked document. -/
inductive Sink where
  | runtime
  | draft
  deriving DecidableEq, Repr

namespace Sink

/-- Both sinks, the strict one first. -/
def all : List Sink := [runtime, draft]

/-- The name of a sink. -/
def name : Sink → String
  | runtime => "runtime_store"
  | draft => "draft_store"

/-- The sink that is meant when none is named. -/
def fallback : Sink := runtime

/-- The strict sink refuses fields that the schema does not declare. -/
def isStrict : Sink → Bool
  | runtime => true
  | draft => false

/-- The spellings of a sink's name, in the order in which messages list them. -/
def spellings : List (String × Sink) :=
  [("etcd", runtime), ("runtime", runtime), ("runtime_store", runtime), ("database", draft),
    ("draft", draft), ("draft_store", draft)]

/-- The sink with the given name, under any of its spellings. -/
def ofName? (text : String) : Option Sink := spellings.lookup text

/-- A sink is found under its own name. -/
@[simp] theorem ofName?_name (sink : Sink) : ofName? sink.name = some sink := by
  cases sink <;> decide

end Sink

end GatewayCheck
