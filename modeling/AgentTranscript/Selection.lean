import AgentTranscript.Json.Shape

/-! The modes and models a session can be switched to. -/
namespace AgentTranscript

structure Mode where
  id : String
  name : String
  description : Option String
  deriving DecidableEq

namespace Mode

def toJson (m : Mode) : Json :=
  .ofFields [("id", some (.string m.id)), ("name", some (.string m.name)),
    ("description", m.description.map .string)]

def shape : Json.Shape Mode :=
  .and (.and (.and (.pure mk) (.required "id" .string)) (.required "name" .string))
    (.optional "description" .string)

def decode : Json.Decoder Mode := shape.decode .direct "struct SessionMode"

end Mode

structure Model where
  modelId : String
  name : String
  description : Option String
  deriving DecidableEq

namespace Model

def toJson (m : Model) : Json :=
  .ofFields [("modelId", some (.string m.modelId)), ("name", some (.string m.name)),
    ("description", m.description.map .string)]

def shape : Json.Shape Model :=
  .and (.and (.and (.pure mk) (.required "modelId" .string)) (.required "name" .string))
    (.optional "description" .string)

def decode : Json.Decoder Model := shape.decode .direct "struct ModelInfo"

end Model
end AgentTranscript
