import AgentTranscript.Proofs.Update.Decode

/-! Which values are read as unknown records: those of a type that is not known, and those without
the one member that their type cannot do without. Anything else that is wrong with a value costs no
more than the part that is wrong, and in a list no more than the items that cannot be read. -/
namespace AgentTranscript

/-- Items, and what is read from those of them that can be read, in their order. -/
inductive ReadOff {α : Type} (read : Json → Option α) : List Json → List α → Prop
  | nil : ReadOff read [] []
  | keep {item : Json} {a : α} {items : List Json} {found : List α} (h : read item = some a)
    (rest : ReadOff read items found) : ReadOff read (item :: items) (a :: found)
  | drop {item : Json} {items : List Json} {found : List α} (h : read item = none)
    (rest : ReadOff read items found) : ReadOff read (item :: items) found

theorem readOff_filterMap {α : Type} (read : Json → Option α) (items : List Json) :
    ReadOff read items (items.filterMap read) := by
  induction items with
  | nil => exact .nil
  | cons item items ih =>
    cases h : read item with
    | none =>
      rw [List.filterMap_cons_none h]
      exact .drop h ih
    | some a =>
      rw [List.filterMap_cons_some h]
      exact .keep h ih

def Json.itemsAt (key : String) (v : Json) : List Json := ((v.get? key).bind array?).getD []

namespace ToolReport

def itemText? (item : Json) : Option String :=
  if item.getString? "type" = some "content" then
    (item.get? "content").bind (·.getString? "text")
  else none

theorem readOff_contentText? (v : Json) :
    ∃ texts, ReadOff itemText? (v.itemsAt "content") texts ∧
      contentText? v = if texts = [] then none else some (.string ("\n".intercalate texts)) := by
  refine ⟨_, readOff_filterMap itemText? (v.itemsAt "content"), ?_⟩
  simp only [← List.isEmpty_iff]
  rfl

theorem rawOutput_of_ofJson? {v : Json} {unread : Option ToolStatus} {typedByKind : Bool}
    {r : ToolReport} (h : ofJson? v unread typedByKind = some r) :
    r.rawOutput = (present? "rawOutput" v).or (contentText? v) := by
  obtain ⟨id, _, rfl⟩ := Option.map_eq_some_iff.mp h
  rfl

end ToolReport

namespace Update
variable {v : Json} {type : String} {typedByKind : Bool}

def knownTypes : List String :=
  ["user_message", "agent_message_chunk", "agent_thought_chunk", "tool_call", "tool_call_update",
    "plan", "mode_state", "current_mode_update", "model_state", "error"]

def typeName (v : Json) : String :=
  ((v.getString? "sessionUpdate").or (v.getString? "kind")).getD ""

/-- Whether a value is no record of a type: the type is not known, or the value lacks the id of a
tool call or the message of an error. -/
def Unreadable (type : String) (v : Json) : Prop :=
  type ∉ knownTypes ∨
    (type = "tool_call" ∨ type = "tool_call_update") ∧ v.getString? "toolCallId" = none ∨
      type = "error" ∧ v.getString? "message" = none

def kindOfType (type : String) : String :=
  if type = "current_mode_update" then "mode_state" else type

def isUnknown : Update → Bool
  | unknown _ => true
  | _ => false

/-- Whether the lists of an update hold just what can be read of the items that a value has for
them. A tool's content is such a list where it stands for the output. -/
def HoldsItems (v : Json) : Update → Prop
  | userMessage content =>
    ∀ items, v.get? "content" = some (.array items) → ReadOff ContentItem.ofJson? items content
  | toolCall r | toolCallUpdate r =>
    ToolReport.present? "rawOutput" v = none →
      ∃ texts, ReadOff ToolReport.itemText? (v.itemsAt "content") texts ∧
        r.rawOutput = if texts = [] then none else some (.string ("\n".intercalate texts))
  | plan entries => ReadOff PlanEntry.ofJson? (v.itemsAt "entries") entries
  | modeState _ available =>
    ReadOff (fun item => (Mode.decode item).toOption) (v.itemsAt "availableModes") available
  | modelState _ available =>
    ReadOff (fun item => (Model.decode item).toOption) (v.itemsAt "availableModels") available
  | messageChunk _ | thoughtChunk _ | error _ | unknown _ => True

end Update

namespace ContentItem

/-- Whether a value gives this content. What names no type is a text, and an image that names no
format is a PNG. -/
def IsReadFrom (v : Json) : ContentItem → Prop
  | text s => (v.getString? "type").getD "text" = "text" ∧ v.getString? "text" = some s
  | image data mimeType =>
    v.getString? "type" = some "image" ∧ v.getString? "data" = some data ∧
      (v.getString? "mimeType").getD "image/png" = mimeType
  | other type => v.getString? "type" = some type ∧ type ≠ "text" ∧ type ≠ "image"

theorem ofJson?_eq_some_iff (v : Json) (item : ContentItem) :
    ofJson? v = some item ↔ item.IsReadFrom v := by
  unfold ofJson?
  cases htype : v.getString? "type" with
  | none => cases item <;> simp [IsReadFrom, htype]
  | some type =>
    rw [Option.getD_some]
    split
    · cases item <;> grind [IsReadFrom, Option.map_eq_some_iff]
    · cases item <;> grind [IsReadFrom, Option.map_eq_some_iff]
    · cases item <;> grind [IsReadFrom, Option.map_eq_some_iff]

/-- Items that cannot be read are texts without the text and images without the data. -/
theorem ofJson?_eq_none_iff (v : Json) :
    ofJson? v = none ↔
      (v.getString? "type").getD "text" = "text" ∧ v.getString? "text" = none ∨
        v.getString? "type" = some "image" ∧ v.getString? "data" = none := by
  unfold ofJson?
  cases htype : v.getString? "type" with
  | none => simp
  | some type =>
    rw [Option.getD_some]
    split
    · simp
    · simp
    · rename_i htext himage
      simp [show ¬ type = "text" from htext, show ¬ type = "image" from himage]

end ContentItem

namespace Update
variable {v : Json} {type : String} {typedByKind : Bool}

/-! ### Values of a given type -/

theorem ofType?_eq_none_iff : ofType? type typedByKind v = none ↔ Unreadable type v := by
  unfold ofType?
  split
  all_goals simp_all [Unreadable, knownTypes, ToolReport.ofJson?, AgentError.ofJson?]

theorem kind_of_ofType? {u : Update} (h : ofType? type typedByKind v = some u) :
    u.kind = kindOfType type ∧ u.isUnknown = false := by
  revert u
  unfold ofType?
  split
  all_goals simp [kind, kindOfType, isUnknown]

theorem lists_of_ofType? {u : Update} (h : ofType? type typedByKind v = some u) :
    (∀ content, u = userMessage content →
        content = ContentItem.listOfJson (v.get? "content")) ∧
      (∀ entries, u = plan entries → entries = listAt PlanEntry.ofJson? "entries" v) ∧
      (∀ current available, u = modeState current available →
        available = listAt (fun item => (Mode.decode item).toOption) "availableModes" v) ∧
      ∀ current available, u = modelState current available →
        available = listAt (fun item => (Model.decode item).toOption) "availableModels" v := by
  revert u
  unfold ofType?
  split
  all_goals simp +contextual

theorem holdsItems_of_report {r : ToolReport}
    (h : ∃ unread, ToolReport.ofJson? v unread typedByKind = some r) :
    HoldsItems v (toolCall r) := by
  intro habsent
  obtain ⟨_, hread⟩ := h
  obtain ⟨texts, htexts, hcontent⟩ := ToolReport.readOff_contentText? v
  refine ⟨texts, htexts, ?_⟩
  rw [ToolReport.rawOutput_of_ofJson? hread, habsent, Option.none_or, hcontent]

theorem holdsItems_of_ofType? {u : Update} (h : ofType? type typedByKind v = some u) :
    HoldsItems v u := by
  obtain ⟨hcontent, hplan, hmodes, hmodels⟩ := lists_of_ofType? h
  cases u with
  | userMessage content =>
    intro items hitems
    rw [hcontent content rfl, hitems]
    exact readOff_filterMap ContentItem.ofJson? items
  | toolCall r => exact holdsItems_of_report (exists_ofJson?_of_ofType? (.inl h))
  | toolCallUpdate r => exact holdsItems_of_report (exists_ofJson?_of_ofType? (.inr h))
  | plan entries => exact hplan entries rfl ▸ readOff_filterMap _ _
  | modeState current available => exact hmodes current available rfl ▸ readOff_filterMap _ _
  | modelState current available => exact hmodels current available rfl ▸ readOff_filterMap _ _
  | messageChunk content | thoughtChunk content | error e | unknown kind => trivial

theorem typeOf_fst (v : Json) : (typeOf v).1 = typeName v := by
  unfold typeOf typeName
  cases v.getString? "sessionUpdate" <;> rfl

/-- A value is an unknown record just if it names a type that is not known, or lacks the id of the
tool call or the message of the error that it reports. Whatever else is wrong with it, the record is
of the kind that the value names, and of a list it lacks just the items that cannot be read. -/
theorem unknown_only_without_essentials (v : Json) :
    ((ofJson v).isUnknown ↔ Unreadable (typeName v) v) ∧
      (ofJson v).kind = kindOfType (typeName v) ∧ HoldsItems v (ofJson v) := by
  rw [ofJson_eq, typeOf_fst]
  cases hread : ofType? (typeName v) (typeOf v).2 v with
  | none =>
    have hnone := ofType?_eq_none_iff.mp hread
    have htype : kindOfType (typeName v) = typeName v := by
      refine if_neg fun h => ?_
      simp [h, Unreadable, knownTypes] at hnone
    exact ⟨iff_of_true rfl hnone, htype.symm, trivial⟩
  | some u =>
    obtain ⟨hkind, hknown⟩ := kind_of_ofType? hread
    have hreadable : ¬ Unreadable (typeName v) v := by
      rw [← @ofType?_eq_none_iff _ _ (typeOf v).2, hread]
      exact Option.some_ne_none u
    refine ⟨iff_of_false ?_ hreadable, hkind, holdsItems_of_ofType? hread⟩
    exact fun h => Bool.false_ne_true (hknown.symm.trans h)

/-- A plan with an entry that has no content, with something that is no entry, and with a status of
no meaning. -/
example :
    let entry (content : Json) := Json.ofMembers [("content", content), ("status", .string "soon")]
    let entries := [entry (.string "read"), entry .null, .string "write", entry (.string "test")]
    ofJson (.ofMembers [("sessionUpdate", .string "plan"), ("entries", .array entries)]) =
      plan [⟨"read", .pending⟩, ⟨"test", .pending⟩] := rfl

end Update
end AgentTranscript
