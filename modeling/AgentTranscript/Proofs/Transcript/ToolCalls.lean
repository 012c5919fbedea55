import AgentTranscript.Proofs.Transcript.Blocks

/-! The tool calls a turn shows. They are those its reports leave behind, so only the reports on a
call count for it, and of these only the last to give each field. -/
namespace AgentTranscript

/-- Whether there is no field of the call that both of these reports have something to show for. -/
structure ToolReport.Apart (r s : ToolReport) : Prop where
  title : r.givenTitle? = none ∨ s.givenTitle? = none
  kind : r.givenKind? = none ∨ s.givenKind? = none
  status : r.status = none ∨ s.status = none
  input : r.input? = none ∨ s.input? = none
  output : r.output? = none ∨ s.output? = none

theorem ToolCall.ofReports_swap {r s : ToolReport} (h : r.Apart s) (limit : Nat) (id : String)
    (before after : List ToolReport) :
    ofReports limit id (before ++ r :: s :: after) =
      ofReports limit id (before ++ s :: r :: after) := by
  simp only [ofReports, ToolReport.lastGiven_swap h.title, ToolReport.lastGiven_swap h.kind,
    ToolReport.lastGiven_swap h.status, ToolReport.lastGiven_swap h.input,
    ToolReport.lastGiven_swap h.output]

namespace TurnLog
open ToolReport

def toolCalls (options : Options) (t : TurnLog) : List ToolCall :=
  (aggregate options t.records).flatMap Message.toolCalls

def toolCall? (options : Options) (t : TurnLog) (id : String) : Option ToolCall :=
  (t.toolCalls options).find? (·.id == id)

def reportsOn (t : TurnLog) (id : String) : List ToolReport := ToolReport.reportsOn id t.reports

theorem toolCalls_of_mem_answer {options : Options} {t : TurnLog} {m : Message}
    (h : m ∈ t.answer options) :
    m.toolCalls = ToolCall.ofAllReports options.outputLimit t.reports := by
  rw [Message.toolCalls, blocks_of_mem_answer h]
  simp [blocks, List.filterMap_map]

theorem toolCalls_of_mem_shown {t : TurnLog} {m : Message} (h : m ∈ t.shown) :
    m.toolCalls = [] := by
  obtain ⟨_, content, hblocks⟩ := mem_shown h
  refine List.filterMap_eq_nil_iff.mpr fun b hb => ?_
  rcases Message.mem_userBlocks (hblocks ▸ hb) with ⟨s, rfl⟩ | ⟨data, mimeType, rfl⟩ <;> rfl

theorem toolCalls_eq (options : Options) (t : TurnLog) :
    t.toolCalls options = ToolCall.ofAllReports options.outputLimit t.reports := by
  have hshown : t.shown.flatMap Message.toolCalls = [] :=
    List.flatMap_eq_nil_iff.mpr fun m hm => toolCalls_of_mem_shown hm
  rw [toolCalls, aggregate_records, List.flatMap_append, hshown, List.append_nil]
  cases hanswer : t.answer options with
  | none =>
    -- A turn without an answer has no reports either.
    have hreports : t.reports = [] := by
      by_contra hsome
      have hspeaks := (t.isSome_answer_iff options).mpr (.inr (.inr (.inl hsome)))
      rw [hanswer] at hspeaks
      exact absurd hspeaks Bool.false_ne_true
    rw [hreports]
    rfl
  | some m =>
    rw [Option.toList_some, List.flatMap_singleton]
    exact toolCalls_of_mem_answer hanswer

theorem toolCall?_eq (options : Options) (t : TurnLog) (id : String) :
    t.toolCall? options id =
      if t.reportsOn id = [] then none
      else some (ToolCall.ofReports options.outputLimit id (t.reportsOn id)) := by
  rw [toolCall?, toolCalls_eq]
  exact ToolCall.find?_ofAllReports options.outputLimit id t.reports

/-- What a call shows in a field that is empty before the first report. -/
theorem toolCall?_bind {α : Type} (field : ToolCall → Option α)
    (hfield : ∀ id, field (ToolCall.unreported id) = none) (options : Options) (t : TurnLog)
    (id : String) :
    (t.toolCall? options id).bind field =
      field (ToolCall.ofReports options.outputLimit id (t.reportsOn id)) := by
  rw [toolCall?_eq]
  split
  · rename_i h
    rw [h, ToolCall.ofReports_nil, hfield]
    rfl
  · rfl

theorem toolCall?_bind_concat {α : Type} (field : ToolCall → Option α)
    (hfield : ∀ id, field (ToolCall.unreported id) = none) {options : Options} {r : ToolReport}
    (hmerge : ∀ call : ToolCall, field (call.merge options.outputLimit r) = field call)
    {t u : TurnLog} (hu : u.reports = t.reports ++ [r]) (id : String) :
    (u.toolCall? options id).bind field = (t.toolCall? options id).bind field := by
  rw [toolCall?_bind field hfield, toolCall?_bind field hfield]
  unfold reportsOn
  rw [hu, reportsOn_concat]
  split
  · rw [ToolCall.ofReports_concat, hmerge]
  · rfl

end TurnLog

/-- Every call shown is what some reports on it leave behind. -/
theorem exists_ofReports_of_mem_toolCalls {options : Options} {log : List UpdateRecord}
    {m : Message} (hm : m ∈ aggregate options log) {call : ToolCall} (hcall : call ∈ m.toolCalls) :
    ∃ id own, call = ToolCall.ofReports options.outputLimit id own := by
  obtain ⟨t, hanswer | hshown⟩ := exists_turn_of_mem_aggregate hm
  · rw [TurnLog.toolCalls_of_mem_answer hanswer] at hcall
    obtain ⟨id, _, rfl⟩ := List.mem_map.mp hcall
    exact ⟨id, _, rfl⟩
  · rw [TurnLog.toolCalls_of_mem_shown hshown] at hcall
    exact absurd hcall List.not_mem_nil

/-- The tool calls of a log are shown turn by turn. Those of a turn are one for each id reported on,
in the order in which the ids first come up, and each field is what the reports on the call gave
last. So it matters neither whether these are calls or updates nor which of two comes first that
give different fields, and an input or output with nothing in it leaves what is shown. -/
theorem tool_calls_of_turns (options : Options) :
    (∀ ts, IsCourse ts →
      (aggregate options (ts.flatMap TurnLog.records)).flatMap Message.toolCalls =
        ts.flatMap (TurnLog.toolCalls options)) ∧
      ∀ t : TurnLog,
        ((t.toolCalls options).map ToolCall.id).Nodup ∧
          (t.toolCalls options).map ToolCall.id = (t.reports.map ToolReport.id).eraseDups ∧
          (∀ call ∈ t.toolCalls options,
            call = ToolCall.ofReports options.outputLimit call.id (t.reportsOn call.id)) ∧
          (∀ (u : TurnLog) (id : String), u.reportsOn id = t.reportsOn id →
            u.toolCall? options id = t.toolCall? options id) ∧
          (∀ (u : TurnLog) (id : String) (before after : List ToolReport) (r s : ToolReport),
            t.reportsOn id = before ++ r :: s :: after →
              u.reportsOn id = before ++ s :: r :: after → r.Apart s →
                u.toolCall? options id = t.toolCall? options id) ∧
          ∀ (u : TurnLog) (r : ToolReport), u.reports = t.reports ++ [r] →
            (r.input? = none → ∀ id,
              (u.toolCall? options id).bind ToolCall.input =
                (t.toolCall? options id).bind ToolCall.input) ∧
              (r.output? = none → ∀ id,
                (u.toolCall? options id).bind ToolCall.rawOutput =
                    (t.toolCall? options id).bind ToolCall.rawOutput ∧
                  (u.toolCall? options id).bind ToolCall.output =
                    (t.toolCall? options id).bind ToolCall.output) := by
  refine ⟨?_, fun t => ⟨?_, ?_, ?_, ?_, ?_, ?_⟩⟩
  · intro ts hcourse
    rw [hcourse.aggregate_eq options, List.flatMap_assoc]
    refine List.flatMap_congr fun t _ => ?_
    rw [TurnLog.toolCalls, t.aggregate_records]
  · rw [t.toolCalls_eq, ToolCall.ids_ofAllReports]
    exact ToolReport.nodup_callIds t.reports
  · rw [t.toolCalls_eq, ToolCall.ids_ofAllReports]
    rfl
  · intro call hcall
    rw [t.toolCalls_eq] at hcall
    obtain ⟨id, _, rfl⟩ := List.mem_map.mp hcall
    rfl
  · intro u id hown
    rw [u.toolCall?_eq, t.toolCall?_eq, hown]
  · intro u id before after r s ht hu hapart
    rw [u.toolCall?_eq, t.toolCall?_eq, ht, hu, ToolCall.ofReports_swap hapart]
    simp
  · intro u r hu
    refine ⟨fun hinput id => ?_, fun houtput id => ⟨?_, ?_⟩⟩
    · exact TurnLog.toolCall?_bind_concat _ (fun _ => rfl) (ToolCall.input_merge hinput _) hu id
    · exact TurnLog.toolCall?_bind_concat _ (fun _ => rfl)
        (ToolCall.rawOutput_merge houtput _) hu id
    · exact TurnLog.toolCall?_bind_concat _ (fun _ => rfl) (ToolCall.output_merge houtput _) hu id

/-- An update runs ahead of its call, whose title is blank, whose kind is the type of a record, and
which has no output to show. -/
theorem tool_calls_of_turns_with_a_late_call :
    let record (u : Update) : UpdateRecord := ⟨none, none, u⟩
    let early : ToolReport :=
      ⟨"x", some "grep", none, some "search", none, some (.string "out")⟩
    let late : ToolReport :=
      ⟨"x", some " ", some .completed, some "tool_call", some .null, some (.string "")⟩
    ∃ t u v w : TurnLog,
      t.records = [record (.toolCallUpdate early), record (.userMessage [])] ∧
        u.records = [record (.toolCallUpdate early), record (.toolCall late)] ∧
        v.records = [record (.toolCall early), record (.toolCallUpdate late)] ∧
        w.records = [record (.toolCall late), record (.toolCallUpdate early)] ∧
        IsCourse [t, u] ∧
        (aggregate {} (t.records ++ u.records)).flatMap Message.toolCalls =
          t.toolCalls {} ++ u.toolCalls {} ∧
        (∀ call ∈ u.toolCalls {},
          call = ⟨"x", "grep", some "search", .completed, none, "out", "out"⟩) ∧
        v.toolCall? {} "x" = u.toolCall? {} "x" ∧
        early.Apart late ∧ w.toolCall? {} "x" = u.toolCall? {} "x" ∧
        (late.input? = none ∧ late.output? = none) ∧
        (u.toolCall? {} "x").bind ToolCall.input = (t.toolCall? {} "x").bind ToolCall.input ∧
        (u.toolCall? {} "x").bind ToolCall.output = (t.toolCall? {} "x").bind ToolCall.output := by
  intro record early late
  let t : TurnLog :=
    { during := [record (.toolCallUpdate early)]
      ending := some (record (.userMessage []))
      during_goesOn := by simp [record, Update.endsTurn]
      ending_endsTurn := by simp [record, Update.endsTurn] }
  let u : TurnLog := .ongoing [record (.toolCallUpdate early), record (.toolCall late)]
    (by simp [record, Update.endsTurn])
  let v : TurnLog := .ongoing [record (.toolCall early), record (.toolCallUpdate late)]
    (by simp [record, Update.endsTurn])
  let w : TurnLog := .ongoing [record (.toolCall late), record (.toolCallUpdate early)]
    (by simp [record, Update.endsTurn])
  have hcourse : IsCourse [t, u] := .cons rfl (.singleton u)
  have hapart : early.Apart late := ⟨.inr rfl, .inr rfl, .inl rfl, .inl rfl, .inr rfl⟩
  have hempty : late.input? = none ∧ late.output? = none := ⟨rfl, rfl⟩
  obtain ⟨hturns, hcalls⟩ := tool_calls_of_turns {}
  obtain ⟨_, hids, hown, hsame, hswap, _⟩ := hcalls u
  obtain ⟨_, _, _, _, _, hkeep⟩ := hcalls t
  obtain ⟨hinput, houtput⟩ := hkeep u late rfl
  have hcall : ∀ call ∈ u.toolCalls {},
      call = ⟨"x", "grep", some "search", .completed, none, "out", "out"⟩ := by
    intro call hmem
    have hid : call.id = "x" := by
      have hx : call.id ∈ (u.toolCalls {}).map ToolCall.id := List.mem_map_of_mem hmem
      rw [hids] at hx
      change call.id ∈ ["x", "x"].eraseDups at hx
      simpa using hx
    rw [hown call hmem, hid]
    decide
  refine ⟨t, u, v, w, rfl, rfl, rfl, rfl, hcourse, ?_, hcall, hsame v "x" rfl, hapart,
    hswap w "x" [] [] early late rfl rfl hapart, hempty, hinput hempty.1 "x",
    (houtput hempty.2 "x").2⟩
  simpa using hturns [t, u] hcourse

end AgentTranscript
