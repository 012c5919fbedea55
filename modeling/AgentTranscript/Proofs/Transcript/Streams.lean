import AgentTranscript.Proofs.Transcript.ToolCalls

/-! What the messages of a turn show is told from streams that run beside each other: the text, the
thought, the plans and the reports on each call. How they are mixed, and into which chunks a text is
cut, shows only in times and in what the agent is doing. -/
namespace AgentTranscript

theorem flatMap_eq_of_forall₂ {α β γ : Type} {R : α → β → Prop} {f : α → List γ} {g : β → List γ}
    (hfg : ∀ a b, R a b → f a = g b) {xs : List α} {ys : List β} (h : List.Forall₂ R xs ys) :
    xs.flatMap f = ys.flatMap g := by
  induction h with
  | nil => rfl
  | cons hr _ ih => rw [List.flatMap_cons, List.flatMap_cons, hfg _ _ hr, ih]

def Message.withoutTimes (m : Message) : Message :=
  { m with startTime := none, endTime := none, lastEvent := none, currentAction := none }

namespace TurnLog

/-- Whether two turns agree in all their streams, in the order in which their calls first come up,
and in what ends them. -/
structure SameStreams (t u : TurnLog) : Prop where
  text_eq : t.text = u.text
  thought_eq : t.thought = u.thought
  plan_eq : t.plan = u.plan
  callIds_eq : ToolReport.callIds t.reports = ToolReport.callIds u.reports
  reportsOn_eq : ∀ id, t.reportsOn id = u.reportsOn id
  ending_eq : t.ending.map UpdateRecord.update = u.ending.map UpdateRecord.update

theorem map_withoutTimes_answer (options : Options) (t : TurnLog) :
    (t.answer options).map Message.withoutTimes =
      if t.Speaks then some { role := .assistant, blocks := t.blocks options.outputLimit }
      else none := by
  by_cases hspeaks : t.Speaks
  · rw [answer_eq_some hspeaks, if_pos hspeaks, Option.map_some, Message.withoutTimes,
      Turn.toMessage, blocks_turn]
  · rw [answer_eq_none hspeaks, if_neg hspeaks, Option.map_none]

namespace SameStreams
variable {t u : TurnLog} (h : SameStreams t u)
include h

theorem ofAllReports_eq (limit : Nat) :
    ToolCall.ofAllReports limit t.reports = ToolCall.ofAllReports limit u.reports := by
  unfold ToolCall.ofAllReports
  rw [h.callIds_eq]
  exact List.map_congr_left fun id _ => congrArg (ToolCall.ofReports limit id) (h.reportsOn_eq id)

theorem ending_cases :
    (t.ending = none ∧ u.ending = none) ∨
      ∃ e f, t.ending = some e ∧ u.ending = some f ∧ e.update = f.update := by
  have hending := h.ending_eq
  cases ht : t.ending <;> cases hu : u.ending <;> simp_all

theorem failure_eq : t.failure = u.failure := by
  unfold failure
  cases h.ending_cases with
  | inl hnone => rw [hnone.1, hnone.2]
  | inr hsome =>
    obtain ⟨e, f, ht, hu, hupdate⟩ := hsome
    rw [ht, hu, Option.bind_some, Option.bind_some, hupdate]

theorem shown_eq : t.shown = u.shown := by
  unfold shown
  cases h.ending_cases with
  | inl hnone => rw [hnone.1, hnone.2]
  | inr hsome =>
    obtain ⟨e, f, ht, hu, hupdate⟩ := hsome
    rw [ht, hu, Option.toList_some, Option.toList_some, List.flatMap_singleton,
      List.flatMap_singleton, hupdate]

theorem blocks_eq (limit : Nat) : t.blocks limit = u.blocks limit := by
  unfold blocks
  rw [h.text_eq, h.thought_eq, h.plan_eq, h.ofAllReports_eq, h.failure_eq]

theorem speaks_iff : t.Speaks ↔ u.Speaks := by
  have hreports : t.reports = [] ↔ u.reports = [] := by
    rw [← ToolCall.ofAllReports_eq_nil_iff 0, h.ofAllReports_eq, ToolCall.ofAllReports_eq_nil_iff]
  unfold Speaks
  rw [h.text_eq, h.thought_eq, h.plan_eq, h.failure_eq, Ne, hreports]

theorem map_withoutTimes_eq (options : Options) :
    ((t.answer options).toList ++ t.shown).map Message.withoutTimes =
      ((u.answer options).toList ++ u.shown).map Message.withoutTimes := by
  have hanswer : (t.answer options).map Message.withoutTimes =
      (u.answer options).map Message.withoutTimes := by
    rw [map_withoutTimes_answer, map_withoutTimes_answer, h.blocks_eq]
    simp only [h.speaks_iff]
  rw [List.map_append, List.map_append, ← Option.toList_map, ← Option.toList_map, hanswer,
    h.shown_eq]

end SameStreams
end TurnLog

/-- Two logs with the same records that end turns make the same messages, but for times and what the
agent is doing, if turn by turn they say the same as one text, as one thought, as their last plan,
and on each call, and name the calls in the same order. -/
theorem streams_can_be_mixed (options : Options) :
    (∀ log, (turns log).flatMap TurnLog.records = log ∧
      (turns log).map TurnLog.ending = (log.filter (·.update.endsTurn)).map some ++ [none]) ∧
      ∀ log other, List.Forall₂ TurnLog.SameStreams (turns log) (turns other) →
        (aggregate options log).map Message.withoutTimes =
          (aggregate options other).map Message.withoutTimes := by
  refine ⟨fun log => ⟨flatMap_records_turns log, map_ending_turns log⟩, ?_⟩
  intro log other hsame
  rw [aggregate_eq_turns, aggregate_eq_turns, List.map_flatMap, List.map_flatMap]
  exact flatMap_eq_of_forall₂ (fun t u h => h.map_withoutTimes_eq options) hsame

/-- Text in other chunks, a call reported on before another goes on, and reports of either kind, in
a turn that fails at another time; then blank text and a thought, the other way around. -/
theorem streams_can_be_mixed_in_two_turns :
    let record (n : Int64) (u : Update) : UpdateRecord := ⟨none, some (.millis n), u⟩
    let chunk (n : Int64) (s : String) := record n (.messageChunk (some (.text s)))
    let thought (n : Int64) (s : String) := record n (.thoughtChunk (some (.text s)))
    let report (id : String) (status : ToolStatus) : ToolReport :=
      ⟨id, none, some status, none, none, none⟩
    let down : Update := .error ⟨.general, "down", none, none⟩
    let log := [chunk 1 "a", record 2 (.toolCall (report "x" .pending)),
      record 3 (.toolCall (report "y" .pending)), chunk 4 "b", thought 5 "c",
      record 6 (.toolCallUpdate (report "x" .completed)), record 7 (.plan []), record 8 down,
      chunk 9 " ", thought 10 "d"]
    let other := [record 1 (.toolCall (report "x" .pending)), record 2 (.plan [⟨"go", .pending⟩]),
      thought 3 "c", record 4 (.toolCall (report "x" .completed)),
      record 5 (.toolCallUpdate (report "y" .pending)), record 6 (.plan []), chunk 7 "ab",
      record 9 down, thought 10 "d", chunk 11 " ", chunk 12 ""]
    List.Forall₂ TurnLog.SameStreams (turns log) (turns other) ∧
      (aggregate {} log).map Message.withoutTimes = (aggregate {} other).map Message.withoutTimes ∧
      aggregate {} log ≠ aggregate {} other := by
  intro record chunk thought report down log other
  have hreports (id : String) :
      ToolReport.reportsOn id
          [report "x" .pending, report "y" .pending, report "x" .completed] =
        ToolReport.reportsOn id
          [report "x" .pending, report "x" .completed, report "y" .pending] := by
    by_cases hx : "x" = id
    · subst hx
      rfl
    · simp [ToolReport.reportsOn, report, hx, List.filter_cons]
  have hsame : List.Forall₂ TurnLog.SameStreams (turns log) (turns other) :=
    .cons ⟨by decide, by decide, by decide, by decide, hreports, rfl⟩
      (.cons ⟨by decide, by decide, rfl, rfl, fun _ => rfl, rfl⟩ .nil)
  exact ⟨hsame, (streams_can_be_mixed {}).2 log other hsame, by decide +kernel⟩

end AgentTranscript
