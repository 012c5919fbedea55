import AgentTranscript.Update.Basic

/-! The mode and the model a session is in, as its log last gave them. -/
namespace AgentTranscript

structure SessionState where
  currentModeId : Option String := none
  availableModes : List Mode := []
  currentModelId : Option String := none
  availableModels : List Model := []
  lastEvent : Option Timestamp := none
  deriving DecidableEq

namespace SessionState

def orKeep {α : Type} (given kept : List α) : List α := if given.isEmpty then kept else given

/-- The state after a record. Records of unknown kinds are no events. -/
def step (s : SessionState) (record : UpdateRecord) : SessionState :=
  match record.update with
  | .unknown _ => s
  | .modeState current available =>
    { s with
      currentModeId := current.or s.currentModeId
      availableModes := orKeep available s.availableModes
      lastEvent := record.timestamp.or s.lastEvent }
  | .modelState current available =>
    { s with
      currentModelId := current.or s.currentModelId
      availableModels := orKeep available s.availableModels
      lastEvent := record.timestamp.or s.lastEvent }
  | _ => { s with lastEvent := record.timestamp.or s.lastEvent }

def ofLog (log : List UpdateRecord) : SessionState := log.foldl step {}

def toJson (s : SessionState) : Json :=
  .ofMembers
    [("currentModeId", (s.currentModeId.map .string).getD .null),
      ("availableModes", .array (s.availableModes.map Mode.toJson)),
      ("currentModelId", (s.currentModelId.map .string).getD .null),
      ("availableModels", .array (s.availableModels.map Model.toJson)),
      ("lastEventTimestamp", (s.lastEvent.map Timestamp.toJson).getD .null)]

end SessionState
end AgentTranscript
