import AgentTranscript.Message.Decode
import AgentTranscript.Message.Encode
import AgentTranscript.Proofs.Json.Shape
import AgentTranscript.Proofs.Json.Written

/-! Messages read back. What the parts of a message are written as is read as those parts again. -/
namespace AgentTranscript

open Json

theorem Role.decode_name (r : Role) : decode (.string r.name) = .ok r := by
  cases r <;> rfl

theorem ToolStatus.decode_toJson (standing : Standing) (s : ToolStatus) :
    decode standing s.toJson = .ok s := by
  cases s <;> rfl

theorem PlanStatus.decode_toJson (standing : Standing) (s : PlanStatus) :
    decode standing s.toJson = .ok s := by
  cases s <;> rfl

theorem ErrorKind.decode_toJson (standing : Standing) (k : ErrorKind) :
    decode standing k.toJson = .ok k := by
  cases k <;> rfl

theorem Timestamp.decode_toJson (t : Timestamp) : decode t.toJson = .ok t := by
  cases t with
  | millis n =>
    have hbounds : Int64.minValue.toInt ≤ n.toInt ∧ n.toInt ≤ Int64.maxValue.toInt :=
      ⟨n.minValue_le_toInt, n.toInt_le⟩
    simp only [toJson, ofInt, decode, if_pos hbounds, n.ofInt_toInt]
  | iso s => rfl

/-! ### Messages as values

A time or a text that is there is not null, so it is never taken for one that is absent. -/

theorem optional_string (s : String) : Decoder.optional .string (.string s) = .ok (some s) := rfl

theorem Timestamp.optional_toJson (t : Timestamp) :
    Decoder.optional decode t.toJson = .ok (some t) :=
  Decoder.optional_of_ne_null t.decode_toJson (by cases t <;> rfl)

namespace PlanEntry

def fields (e : PlanEntry) : List (String × Option Json) :=
  [("content", some (.string e.content)), ("status", some e.status.toJson)]

theorem toJson_eq (e : PlanEntry) : e.toJson = .ofFields e.fields := rfl

theorem reads (standing : Standing) (e : PlanEntry) :
    (shape standing).Reads (given? · e.fields) e :=
  .and (.and (.pure mk)
    (.required rfl rfl)) (.required rfl (e.status.decode_toJson standing))

theorem decode_toJson (standing : Standing) (e : PlanEntry) : decode standing e.toJson = .ok e := by
  rw [toJson_eq]
  exact Shape.decode_ofFields (by simp [fields]) (e.reads standing) standing "struct PlanEntry"

end PlanEntry

theorem ToolCall.reads (c : ToolCall) : shape.Reads (given? · c.fields) c :=
  .and (.and (.and (.and (.and (.and (.and (.pure mk)
    (.required rfl rfl)) (.required rfl rfl)) (.optional rfl optional_string))
    (.required rfl (c.status.decode_toJson .held))) (.optional rfl optional_string))
    (.optional rfl optional_string)) (.optional rfl optional_string)

theorem AgentError.reads (e : AgentError) : shape.Reads (given? · e.fields) e :=
  .and (.and (.and (.and (.pure mk)
    (.required rfl (e.kind.decode_toJson .held))) (.required rfl rfl))
    (.optional rfl optional_string)) (.optional rfl optional_string)

theorem Block.decode_toJson (b : Block) : decode b.toJson = .ok b := by
  -- The type picks the shape that reads the rest, and no field has the name of another.
  cases b with
  | text s => exact Decoder.tagged_ofFields rfl (by simp) (.required rfl rfl)
  | thought s => exact Decoder.tagged_ofFields rfl (by simp) (.required rfl rfl)
  | tool call => exact Decoder.tagged_ofFields rfl (by simp [ToolCall.fields]) call.reads
  | image data mimeType =>
    -- The shape of an image makes a block by itself.
    change decode _ = .ok (id (image data mimeType))
    exact Decoder.tagged_ofFields rfl (by simp)
      (.and (.and (.pure image) (.required rfl rfl)) (.required rfl rfl))
  | plan entries =>
    exact Decoder.tagged_ofFields rfl (by simp)
      (.required rfl (Decoder.list_map (PlanEntry.decode_toJson .held) entries))
  | error e => exact Decoder.tagged_ofFields rfl (by simp [AgentError.fields]) e.reads

namespace Message

def fields (m : Message) : List (String × Option Json) :=
  [("role", some (.string m.role.name)), ("blocks", some (.array (m.blocks.map Block.toJson))),
    ("startTime", m.startTime.map Timestamp.toJson), ("endTime", m.endTime.map Timestamp.toJson),
    ("lastEventTimestamp", m.lastEvent.map Timestamp.toJson),
    ("currentAction", m.currentAction.map .string)]

theorem toJson_eq (m : Message) : m.toJson = .ofFields m.fields := rfl

theorem reads (m : Message) : shape.Reads (given? · m.fields) m :=
  .and (.and (.and (.and (.and (.and (.pure mk)
    (.required rfl m.role.decode_name))
    (.required rfl (Decoder.list_map Block.decode_toJson m.blocks)))
    (.optional rfl Timestamp.optional_toJson)) (.optional rfl Timestamp.optional_toJson))
    (.optional rfl Timestamp.optional_toJson)) (.optional rfl optional_string)

theorem decode_toJson (m : Message) : decode m.toJson = .ok m := by
  rw [toJson_eq]
  exact Shape.decode_ofFields (by simp [fields]) m.reads .direct "struct Message"

theorem listDecode_listToJson (messages : List Message) :
    listDecode (listToJson messages) = .ok messages :=
  Decoder.list_map decode_toJson messages

end Message

/-! ### Messages as text

Only the depth of a value could keep its text from being read, and that of messages is six. -/

theorem Timestamp.plain_toJson (depth : Nat) (t : Timestamp) : Plain depth t.toJson := by
  cases t with
  | millis n =>
    have hupper : n.toInt < UInt64.size := Int.lt_trans n.toInt_lt (by decide)
    exact .integer n.minValue_le_toInt hupper
  | iso s => exact .string s

theorem PlanEntry.plain_toJson (depth : Nat) (e : PlanEntry) : Plain (depth + 1) e.toJson := by
  rw [toJson_eq]
  exact plain_ofFields (by simp [Plain.string, fields, PlanStatus.toJson])

theorem Block.plain_toJson (depth : Nat) (b : Block) : Plain (depth + 3) b.toJson := by
  cases b with
  | text s => exact plain_ofFields (by simp [Plain.string])
  | thought s => exact plain_ofFields (by simp [Plain.string])
  | tool call =>
    exact plain_ofFields (by simp [Plain.string, ToolCall.fields, ToolStatus.toJson])
  | image data mimeType => exact plain_ofFields (by simp [Plain.string])
  | plan entries =>
    have hplain : Plain (depth + 2) (.array (entries.map PlanEntry.toJson)) :=
      .array (List.forall_mem_map.mpr fun e _ => e.plain_toJson depth)
    exact plain_ofFields (by simp [Plain.string, hplain])
  | error e => exact plain_ofFields (by simp [Plain.string, AgentError.fields, ErrorKind.toJson])

namespace Message

theorem plain_toJson (depth : Nat) (m : Message) : Plain (depth + 5) m.toJson := by
  have hplain : Plain (depth + 4) (.array (m.blocks.map Block.toJson)) :=
    .array (List.forall_mem_map.mpr fun b _ => b.plain_toJson depth)
  rw [toJson_eq]
  exact plain_ofFields (by simp [Plain.string, fields, hplain, Timestamp.plain_toJson])

theorem plain_listToJson (depth : Nat) (messages : List Message) :
    Plain (depth + 6) (listToJson messages) :=
  .array (List.forall_mem_map.mpr fun m _ => m.plain_toJson depth)

end Message

/-- Messages are read back from the value they are written as, and that value from its text in any
layout. -/
theorem messages_are_read_back (messages : List Message) :
    Message.listDecode (Message.listToJson messages) = .ok messages ∧
      ∀ layout : Layout,
        parse (String.ofList ((Message.listToJson messages).write layout)) =
          .ok (Message.listToJson messages) := by
  have hplain : Plain maxDepth (Message.listToJson messages) :=
    Message.plain_listToJson 121 messages
  exact ⟨Message.listDecode_listToJson messages, parse_write hplain⟩

end AgentTranscript
