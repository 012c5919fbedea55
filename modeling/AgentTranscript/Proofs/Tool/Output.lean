import AgentTranscript.Proofs.Text.Cut
import AgentTranscript.Proofs.Transcript.CurrentAction

/-! What is shown of a tool's output. The whole of it is kept beside what is shown, which is cut
from it at a limit, and the limit decides over nothing else. -/
namespace AgentTranscript

/-! ### Values as text are not empty -/

theorem Binary64.Digits.text_ne_nil (d : Digits) : d.text ≠ [] := by
  unfold text
  split_ifs <;> simp

theorem Binary64.text_ne_nil (x : Binary64) : x.text ≠ [] := by
  unfold text
  split_ifs <;> simp [Digits.text_ne_nil]

namespace Json

theorem JsonNumber.text_ne_nil (n : JsonNumber) : JsonNumber.text n ≠ [] := by
  cases n with
  | integer n =>
    cases n with
    | ofNat m =>
      change m.repr.toList ≠ []
      rw [← List.length_pos_iff, String.length_toList]
      exact Nat.length_repr_pos
    | negSucc m =>
      change ("-" ++ (m + 1).repr).toList ≠ []
      simp
  | real x => exact x.text_ne_nil

theorem enclose_ne_nil (layout : Layout) (before after : Char) (parts : List (List Char)) :
    enclose layout before after parts ≠ [] := by
  cases parts <;> exact List.cons_ne_nil _ _

theorem write_ne_nil (layout : Layout) (v : Json) : v.write layout ≠ [] := by
  cases v with
  | null => exact List.cons_ne_nil _ _
  | bool b => cases b <;> exact List.cons_ne_nil _ _
  | number n => exact JsonNumber.text_ne_nil n
  | string s => exact List.cons_ne_nil _ _
  | array items => exact enclose_ne_nil layout _ _ _
  | object members => exact enclose_ne_nil layout _ _ _

end Json

theorem rawText?_ne_some_empty (v : Json) : rawText? v ≠ some "" := by
  have hpretty : some v.pretty ≠ some "" := by
    intro h
    exact Json.write_ne_nil .pretty v (String.ofList_inj.mp (Option.some.inj h))
  unfold rawText?
  split
  · exact nofun
  · split
    · exact nofun
    · rename_i s hs
      simpa using hs
  · exact nofun
  · exact nofun
  · exact hpretty

/-! ### The output of a call -/

namespace ToolCall

theorem output_ofReports (limit : Nat) (id : String) (own : List ToolReport) :
    (ofReports limit id own).output =
      (ofReports limit id own).rawOutput.map (Text.cut limit) :=
  rfl

theorem rawOutput_ofReports_ne (limit : Nat) (id : String) (own : List ToolReport) :
    (ofReports limit id own).rawOutput ≠ some "" := by
  intro h
  obtain ⟨r, _, hr⟩ := List.mem_filterMap.mp (List.mem_of_getLast? h)
  obtain ⟨v, _, hv⟩ := Option.bind_eq_some_iff.mp hr
  exact rawText?_ne_some_empty v hv

/-- A call but for what it shows of its output. -/
def withoutOutput (call : ToolCall) : ToolCall := { call with output := none }

theorem withoutOutput_ofReports (m n : Nat) (id : String) (own : List ToolReport) :
    (ofReports m id own).withoutOutput = (ofReports n id own).withoutOutput := by
  simp only [withoutOutput, ofReports]

end ToolCall

def Block.withoutOutput : Block → Block
  | .tool call => .tool call.withoutOutput
  | b => b

def Message.withoutOutput (m : Message) : Message :=
  { m with blocks := m.blocks.map Block.withoutOutput }

/-! ### Messages under different limits -/

namespace TurnLog
variable (m n : Nat) (t : TurnLog)

theorem map_withoutOutput_blocks :
    (t.blocks m).map Block.withoutOutput = (t.blocks n).map Block.withoutOutput := by
  have htools : ((ToolCall.ofAllReports m t.reports).map Block.tool).map Block.withoutOutput =
      ((ToolCall.ofAllReports n t.reports).map Block.tool).map Block.withoutOutput := by
    simp only [ToolCall.ofAllReports, List.map_map]
    exact List.map_congr_left fun id _ =>
      congrArg Block.tool (ToolCall.withoutOutput_ofReports m n id _)
  simp only [blocks, List.map_append, htools]

theorem action_call :
    Contribution.action (t.call m) = Contribution.action (t.call n) := by
  funext c
  refine Contribution.action_congr (fun id => ⟨?_, ?_⟩) c
  · simp only [call, ToolCall.ofReports]
  · simp only [call, ToolCall.ofReports]

theorem map_withoutOutput_answer (closeFinalTurn : Bool) :
    (t.answer ⟨m, closeFinalTurn⟩).map Message.withoutOutput =
      (t.answer ⟨n, closeFinalTurn⟩).map Message.withoutOutput := by
  by_cases hspeaks : t.Speaks
  · rw [answer_eq_some hspeaks, answer_eq_some hspeaks]
    simp only [Option.map_some, Message.withoutOutput, Turn.toMessage, blocks_turn, startTime_turn,
      lastEvent_turn, endTime_eq, currentAction_eq, map_withoutOutput_blocks m n, action_call m n]
  · rw [answer_eq_none hspeaks, answer_eq_none hspeaks]

end TurnLog

theorem map_withoutOutput_aggregate (m n : Nat) (closeFinalTurn : Bool)
    (log : List UpdateRecord) :
    (aggregate ⟨m, closeFinalTurn⟩ log).map Message.withoutOutput =
      (aggregate ⟨n, closeFinalTurn⟩ log).map Message.withoutOutput := by
  obtain ⟨ts, hcourse, rfl⟩ := exists_isCourse log
  rw [hcourse.aggregate_eq, hcourse.aggregate_eq, List.map_flatMap, List.map_flatMap]
  refine List.flatMap_congr fun t _ => ?_
  rw [List.map_append, List.map_append, ← Option.toList_map, ← Option.toList_map,
    t.map_withoutOutput_answer m n]

/-- Under any two limits a log makes the same messages but for what they show of outputs. That is
the output cut at the limit, wherever there is one, and no output is empty. It is the whole just if
that is no longer than the limit, or one character longer and that the mark. -/
theorem output_limit_only_cuts_outputs (closeFinalTurn : Bool) (log : List UpdateRecord) :
    (∀ m n : Nat,
      (aggregate ⟨m, closeFinalTurn⟩ log).map Message.withoutOutput =
        (aggregate ⟨n, closeFinalTurn⟩ log).map Message.withoutOutput) ∧
      ∀ limit : Nat, ∀ m ∈ aggregate ⟨limit, closeFinalTurn⟩ log, ∀ call ∈ m.toolCalls,
        call.output = call.rawOutput.map (Text.cut limit) ∧
          (call.output.isSome ↔ call.rawOutput.isSome) ∧
          call.rawOutput ≠ some "" ∧
          ∀ raw ∈ call.rawOutput, (call.output = some raw ↔
            raw.length ≤ limit ∨
              ∃ kept : String, kept.length = limit ∧ raw = kept.push Text.cutMark) := by
  refine ⟨fun m n => map_withoutOutput_aggregate m n closeFinalTurn log, ?_⟩
  intro limit m hm call hcall
  obtain ⟨id, own, rfl⟩ := exists_ofReports_of_mem_toolCalls hm hcall
  have houtput := ToolCall.output_ofReports limit id own
  refine ⟨houtput, ?_, ToolCall.rawOutput_ofReports_ne limit id own, ?_⟩
  · rw [houtput, Option.isSome_map]
  · intro raw hraw
    rw [houtput, Option.mem_def.mp hraw, Option.map_some, Option.some_inj]
    exact Text.cut_eq_self_iff limit raw

/-- An output that grows beyond the limit, one that ends in the mark, and none. -/
theorem output_limit_only_cuts_outputs_at_three :
    let record (u : Update) : UpdateRecord := ⟨none, none, u⟩
    let report (id : String) (v : Json) : ToolReport := ⟨id, none, none, none, none, some v⟩
    let log := [record (.toolCall (report "x" (.string "abc"))),
      record (.toolCall (report "y" (.string "abc…"))), record (.toolCall (report "z" .null)),
      record (.toolCallUpdate (report "x" (.string "abcd")))]
    let x : ToolCall := ⟨"x", "Tool Call", none, .pending, none, some "abc…", some "abcd"⟩
    let y : ToolCall := ⟨"y", "Tool Call", none, .pending, none, some "abc…", some "abc…"⟩
    let z : ToolCall := ⟨"z", "Tool Call", none, .pending, none, none, none⟩
    ∃ m ∈ aggregate ⟨3, true⟩ log, m.toolCalls = [x, y, z] ∧
      (aggregate ⟨3, true⟩ log).map Message.withoutOutput =
        (aggregate ⟨9, true⟩ log).map Message.withoutOutput ∧
      x.output = x.rawOutput.map (Text.cut 3) ∧ x.rawOutput ≠ some "" ∧
      (z.output.isSome ↔ z.rawOutput.isSome) ∧
      ∃ kept : String, kept.length = 3 ∧ "abc…" = kept.push Text.cutMark := by
  intro record report log x y z
  obtain ⟨hsame, hcalls⟩ := output_limit_only_cuts_outputs true log
  let m : Message := { role := .assistant, blocks := [.tool x, .tool y, .tool z] }
  have hm : m ∈ aggregate ⟨3, true⟩ log := by decide
  obtain ⟨hx, _, hfull, _⟩ := hcalls 3 m hm x (by decide)
  obtain ⟨_, _, _, hmark⟩ := hcalls 3 m hm y (by decide)
  obtain ⟨_, hnone, _, _⟩ := hcalls 3 m hm z (by decide)
  have hkept := ((hmark "abc…" rfl).mp rfl).resolve_left (by decide)
  exact ⟨m, hm, rfl, hsame 3 9, hx, hfull, hnone, hkept⟩

end AgentTranscript
