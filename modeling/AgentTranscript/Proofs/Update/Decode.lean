import AgentTranscript.Update.Decode

/-! What decoding reads. An update is read from some members of its object: two of them may hold its
type, one of which may name the kind of a tool instead, and the others hold its content. Objects
that agree on these are read alike. -/
namespace AgentTranscript
variable {v w : Json} {typedByKind typedByKind' : Bool}

def ToolReport.kindOf? (v : Json) (typedByKind : Bool) : Option String :=
  if typedByKind then none else (v.getString? "kind").filter (!isToolRecord ·)

/-- The keys under which the content of an update is looked up. -/
def Update.contentKeys : List String :=
  ["content", "toolCallId", "title", "status", "rawInput", "rawOutput", "entries",
    "currentModeId", "availableModes", "currentModelId", "availableModels", "message",
    "errorType", "agentId", "authCommand"]

theorem ToolReport.ofJson?_congr (h : ∀ key ∈ Update.contentKeys, v.get? key = w.get? key)
    (hkind : kindOf? v typedByKind = kindOf? w typedByKind') (unread : Option ToolStatus) :
    ofJson? v unread typedByKind = ofJson? w unread typedByKind' := by
  simp only [Update.contentKeys, List.forall_mem_cons] at h
  unfold kindOf? at hkind
  have htext : contentText? v = contentText? w := by simp only [contentText?, h]
  simp only [ofJson?, hkind, htext]
  simp only [present?, Json.getString?, h]

theorem AgentError.ofJson?_congr (h : ∀ key ∈ Update.contentKeys, v.get? key = w.get? key) :
    ofJson? v = ofJson? w := by
  simp only [Update.contentKeys, List.forall_mem_cons] at h
  simp only [ofJson?, Json.getString?, h]

theorem ToolReport.kind_of_ofJson? {unread : Option ToolStatus} {r : ToolReport}
    (h : ofJson? v unread typedByKind = some r) : r.kind = kindOf? v typedByKind := by
  obtain ⟨id, _, rfl⟩ := Option.map_eq_some_iff.mp h
  rfl

namespace Update

theorem ofType?_congr (h : ∀ key ∈ contentKeys, v.get? key = w.get? key)
    (hkind : ToolReport.kindOf? v typedByKind = ToolReport.kindOf? w typedByKind')
    (type : String) : ofType? type typedByKind v = ofType? type typedByKind' w := by
  have hreport := ToolReport.ofJson?_congr h hkind
  have herror := AgentError.ofJson?_congr h
  simp only [contentKeys, List.forall_mem_cons] at h
  simp only [ofType?, hreport, herror, listAt, Json.getString?, h]

theorem ofJson_eq (v : Json) :
    ofJson v = (ofType? (typeOf v).1 (typeOf v).2 v).getD (unknown (typeOf v).1) := rfl

theorem ofJson_congr_of_type (h : ∀ key ∈ contentKeys, v.get? key = w.get? key)
    (htype : (typeOf v).1 = (typeOf w).1)
    (hkind : ToolReport.kindOf? v (typeOf v).2 = ToolReport.kindOf? w (typeOf w).2) :
    ofJson v = ofJson w := by
  rw [ofJson_eq, ofJson_eq, ofType?_congr h hkind, htype]

theorem ofJson_congr
    (h : ∀ key ∈ "sessionUpdate" :: "kind" :: contentKeys, v.get? key = w.get? key) :
    ofJson v = ofJson w := by
  obtain ⟨hname, hkind, hcontent⟩ :
      v.get? "sessionUpdate" = w.get? "sessionUpdate" ∧ v.get? "kind" = w.get? "kind" ∧
        ∀ key ∈ contentKeys, v.get? key = w.get? key := by
    simpa only [List.forall_mem_cons] using h
  have htype : typeOf v = typeOf w := by simp only [typeOf, Json.getString?, hname, hkind]
  refine ofJson_congr_of_type hcontent (congrArg Prod.fst htype) ?_
  simp only [htype, ToolReport.kindOf?, Json.getString?, hkind]

theorem exists_ofJson?_of_ofType? {type : String} {r : ToolReport}
    (h : ofType? type typedByKind v = some (toolCall r) ∨
      ofType? type typedByKind v = some (toolCallUpdate r)) :
    ∃ unread, ToolReport.ofJson? v unread typedByKind = some r := by
  obtain h | h := h
  all_goals
    unfold ofType? at h
    split at h
    all_goals simp at h
    exact ⟨_, h⟩

theorem kind_of_ofJson {r : ToolReport} (h : ofJson v = toolCall r ∨ ofJson v = toolCallUpdate r) :
    r.kind = ToolReport.kindOf? v (typeOf v).2 := by
  rw [ofJson_eq] at h
  have hread : ofType? (typeOf v).1 (typeOf v).2 v = some (toolCall r) ∨
      ofType? (typeOf v).1 (typeOf v).2 v = some (toolCallUpdate r) := by
    cases hu : ofType? (typeOf v).1 (typeOf v).2 v with
    | none => simp [hu] at h
    | some u => simpa [hu] using h
  obtain ⟨_, hreport⟩ := exists_ofJson?_of_ofType? hread
  exact ToolReport.kind_of_ofJson? hreport

end Update
end AgentTranscript
