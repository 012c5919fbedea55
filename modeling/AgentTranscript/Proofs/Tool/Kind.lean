import AgentTranscript.Proofs.Json.Members
import AgentTranscript.Proofs.Transcript.ToolCalls
import AgentTranscript.Proofs.Update.Decode

/-! Where the kind of a tool comes from. A record may give its own type under the key that else
names the kind of a tool. It is read as if the type stood at its usual place, and neither there nor
in the calls put together from reports does the name of a type become a kind of tool. -/
namespace AgentTranscript

/-- The kind of a tool as far as one is given: not the type of a record that reports on tools. -/
def IsToolKind (kind : Option String) : Prop :=
  kind ≠ some "tool_call" ∧ kind ≠ some "tool_call_update"

theorem isToolKind_filter (kind : Option String) : IsToolKind (kind.filter (!isToolRecord ·)) := by
  constructor <;> intro h <;> simp [isToolRecord] at h

theorem ToolReport.isToolKind_kindOf? (v : Json) (typedByKind : Bool) :
    IsToolKind (kindOf? v typedByKind) := by
  unfold kindOf?
  split
  · exact ⟨nofun, nofun⟩
  · exact isToolKind_filter _

theorem ToolCall.isToolKind_ofReports (limit : Nat) (id : String) (own : List ToolReport) :
    IsToolKind (ofReports limit id own).kind := by
  cases hkind : (ofReports limit id own).kind with
  | none => exact ⟨nofun, nofun⟩
  | some kind =>
    obtain ⟨r, _, hr⟩ := List.mem_filterMap.mp (List.mem_of_getLast? hkind)
    rw [← hr, ← r.kind?_eq]
    exact isToolKind_filter r.kind

namespace Update
variable {members : List (String × Json)}

theorem typeOf_insert_sessionUpdate (type : String) :
    typeOf (.object (Json.insert "sessionUpdate" (.string type) members)) = (type, false) := by
  rw [typeOf, Json.getString?_insert_self]

theorem typeOf_insert_kind (h : Json.find? "sessionUpdate" members = none) (type : String) :
    typeOf (.object (Json.insert "kind" (.string type) members)) = (type, true) := by
  have habsent : (Json.object members).getString? "sessionUpdate" = none := by
    rw [Json.getString?, Json.get?, h]
    rfl
  rw [typeOf, Json.getString?_insert_of_ne (by decide), habsent, Json.getString?_insert_self]
  rfl

theorem get?_insert_type {key typeKey : String} (hkey : key ∈ contentKeys)
    (htype : typeKey = "sessionUpdate" ∨ typeKey = "kind") (v : Json) :
    (Json.object (Json.insert typeKey v members)).get? key = (Json.object members).get? key := by
  refine Json.find?_insert_of_ne ?_ v members
  rintro rfl
  obtain rfl | rfl := htype <;> simp [contentKeys] at hkey

theorem ofJson_insert_type (htype : Json.find? "sessionUpdate" members = none)
    (hkind : Json.find? "kind" members = none) (type : String) :
    ofJson (.object (Json.insert "sessionUpdate" (.string type) members)) =
      ofJson (.object (Json.insert "kind" (.string type) members)) := by
  have hclassified := typeOf_insert_kind htype type
  refine ofJson_congr_of_type (fun key hkey => ?_) ?_ ?_
  · rw [get?_insert_type hkey (.inl rfl), get?_insert_type hkey (.inr rfl)]
  · rw [typeOf_insert_sessionUpdate, hclassified]
  · have habsent : (Json.object members).getString? "kind" = none := by
      rw [Json.getString?, Json.get?, hkind]
      rfl
    rw [typeOf_insert_sessionUpdate, hclassified, ToolReport.kindOf?,
      Json.getString?_insert_of_ne (by decide), habsent]
    rfl

end Update

/-- A record is read alike whether its type stands under `sessionUpdate` or under `kind`. A report
that is read has no type's name for a kind, and no kind at all where no type stands under
`sessionUpdate`. No call of a transcript has a type's name for a kind, whatever its reports say. -/
theorem types_are_no_tool_kinds :
    (∀ (members : List (String × Json)) (type : String),
      Json.find? "sessionUpdate" members = none → Json.find? "kind" members = none →
        Update.ofJson (.object (Json.insert "sessionUpdate" (.string type) members)) =
          Update.ofJson (.object (Json.insert "kind" (.string type) members))) ∧
      (∀ (v : Json) (r : ToolReport),
        Update.ofJson v = .toolCall r ∨ Update.ofJson v = .toolCallUpdate r →
          IsToolKind r.kind ∧ (v.getString? "sessionUpdate" = none → r.kind = none)) ∧
      ∀ (options : Options) (log : List UpdateRecord),
        ∀ m ∈ aggregate options log, ∀ call ∈ m.toolCalls, IsToolKind call.kind := by
  refine ⟨?_, ?_, ?_⟩
  · intro members type htype hkind
    exact Update.ofJson_insert_type htype hkind type
  · intro v r h
    rw [Update.kind_of_ofJson h]
    refine ⟨ToolReport.isToolKind_kindOf? v _, fun habsent => ?_⟩
    rw [Update.typeOf, habsent]
    rfl
  · intro options log m hm call hcall
    obtain ⟨id, own, rfl⟩ := exists_ofReports_of_mem_toolCalls hm hcall
    exact ToolCall.isToolKind_ofReports _ id own

/-- A record of either spelling, and a log in which a call with a kind is reported on once with a
type's name for a kind, and once by a record typed under `kind`. -/
theorem types_are_no_tool_kinds_in_merged_call :
    let members := [("status", Json.string "done"), ("toolCallId", Json.string "x")]
    let typed (key : String) := Json.object (Json.insert key (.string "tool_call_update") members)
    let report : ToolReport := ⟨"x", none, some .completed, none, none, none⟩
    let record (kind : String) : UpdateRecord :=
      ⟨none, none, .toolCall { report with kind := some kind }⟩
    let log := [record "read", record "tool_call", UpdateRecord.ofJson (typed "kind")]
    let call : ToolCall := ⟨"x", "Tool Call", some "read", .completed, none, none, none⟩
    (Json.find? "sessionUpdate" members = none ∧ Json.find? "kind" members = none ∧
        Update.ofJson (typed "sessionUpdate") = Update.ofJson (typed "kind")) ∧
      (Update.ofJson (typed "kind") = .toolCallUpdate report ∧
        (typed "kind").getString? "sessionUpdate" = none ∧ report.kind = none) ∧
      ∃ m ∈ aggregate {} log, m.toolCalls = [call] ∧ IsToolKind call.kind := by
  intro members typed report record log call
  obtain ⟨halike, hread, hshown⟩ := types_are_no_tool_kinds
  have hreport : Update.ofJson (typed "kind") = .toolCallUpdate report := rfl
  have huntyped : (typed "kind").getString? "sessionUpdate" = none := rfl
  let m : Message :=
    { role := .assistant, blocks := [.tool call], currentAction := some "Processing" }
  have hm : m ∈ aggregate {} log := by decide
  exact ⟨⟨rfl, rfl, halike members "tool_call_update" rfl rfl⟩,
    ⟨hreport, huntyped, (hread _ report (.inr hreport)).2 huntyped⟩,
    m, hm, rfl, hshown {} log m hm call List.mem_cons_self⟩

end AgentTranscript
