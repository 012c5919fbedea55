import AgentTranscript.Proofs.Transcript.OpenTurn
import AgentTranscript.Proofs.Transcript.Timing
import AgentTranscript.Proofs.Transcript.ToolCalls

/-! What the agent is said to be doing. Only the message of a turn that goes on says it, and it
always does: the last thing added to the turn tells, and of a tool call its reports together. -/
namespace AgentTranscript

theorem ToolStatus.isActive_iff (s : ToolStatus) : s.isActive ↔ s = .pending ∨ s = .inProgress := by
  cases s <;> decide

namespace Contribution

def activity : Contribution → Activity
  | text _ | error _ => .responding
  | thought _ => .thinking
  | report _ => .tool
  | plan _ => .planning

/-- What an agent is doing, in words, that made this contribution last. Of a tool they depend on
how its call stands by now. -/
def action (call : String → ToolCall) : Contribution → String
  | text _ | error _ => "Responding"
  | thought _ => "Thinking"
  | report r =>
    if (call r.id).status = .pending ∨ (call r.id).status = .inProgress then
      "Running " ++ (call r.id).title
    else "Processing"
  | plan _ => "Planning"

theorem action_congr {before after : String → ToolCall}
    (h : ∀ id, (before id).title = (after id).title ∧ (before id).status = (after id).status)
    (c : Contribution) : c.action before = c.action after := by
  cases c with
  | report r =>
    simp only [action]
    rw [(h r.id).1, (h r.id).2]
  | _ => rfl

end Contribution

namespace Turn
variable (limit : Nat) (t : Turn) (r : UpdateRecord)

theorem activity_take :
    (t.take limit r).activity =
      (r.update.contribution?.map Contribution.activity).or t.activity := by
  unfold take
  cases r.update.contribution? with
  | none => rfl
  | some c => cases c <;> rfl

theorem latestTool_take :
    (t.take limit r).latestTool =
      ((r.update.contribution?.bind Contribution.report?).map ToolReport.id).or t.latestTool := by
  unfold take
  cases r.update.contribution? with
  | none => rfl
  | some c => cases c <;> rfl

end Turn

namespace TurnLog

def call (limit : Nat) (t : TurnLog) (id : String) : ToolCall :=
  ToolCall.ofReports limit id (t.reportsOn id)

theorem activity_turn (limit : Nat) (t : TurnLog) :
    (t.turn limit).activity = t.contributions.getLast?.map Contribution.activity := by
  have hlast := field_foldl_last (Turn.activity_take limit) {} t.records
  rwa [Option.or_none, ← List.map_filterMap, List.getLast?_map] at hlast

theorem latestTool_turn (limit : Nat) (t : TurnLog) :
    (t.turn limit).latestTool = t.reports.getLast?.map ToolReport.id := by
  have hlast := field_foldl_last (Turn.latestTool_take limit) {} t.records
  rwa [Option.or_none, ← List.map_filterMap, List.getLast?_map, ← List.filterMap_filterMap] at hlast

theorem getLast?_reports {t : TurnLog} {r : ToolReport}
    (h : t.contributions.getLast? = some (.report r)) : t.reports.getLast? = some r := by
  obtain ⟨before, hbefore⟩ := List.getLast?_eq_some_iff.mp h
  rw [reports, hbefore, getLast?_filterMap_concat]
  rfl

/-- The call reported on last is among those of the turn, so there are words for it. -/
theorem currentAction_turn (limit : Nat) (t : TurnLog) :
    (t.turn limit).currentAction =
      t.contributions.getLast?.map (Contribution.action (t.call limit)) := by
  have htools : (t.turn limit).tools = ToolCall.ofAllReports limit t.reports :=
    (t.gathers limit).tools_eq
  rw [Turn.currentAction, activity_turn, latestTool_turn, htools]
  cases hlast : t.contributions.getLast? with
  | none => rfl
  | some c =>
    cases c with
    | report r =>
      have hreport := getLast?_reports hlast
      have hcall : t.reportsOn r.id ≠ [] :=
        List.ne_nil_of_mem
          (List.mem_filter.mpr ⟨List.mem_of_getLast? hreport, beq_self_eq_true r.id⟩)
      have hfind : (ToolCall.ofAllReports limit t.reports).find? (·.id == r.id) =
          some (t.call limit r.id) :=
        (ToolCall.find?_ofAllReports limit r.id t.reports).trans (if_neg hcall)
      simp only [Option.map_some, Option.bind_some, Contribution.activity, hreport, hfind,
        Contribution.action, ToolStatus.isActive_iff]
    | _ => rfl

theorem exists_getLast?_contributions {t : TurnLog} (h : t.Speaks) :
    ∃ c, c ∈ t.contributions.getLast? := by
  have hsome : t.contributions ≠ [] := by
    intro hnone
    have hfailure : t.failure = none := by
      simpa [hnone] using t.errors_contributions.symm
    have hblank : Text.isBlankText "" = true := by decide
    simp [Speaks, text, thought, reports, plan, hnone, hfailure, hblank] at h
  exact ⟨_, List.getLast_mem_getLast? hsome⟩

theorem error?_of_mem_contributions {t : TurnLog} (ht : t.failure = none) {c : Contribution}
    (h : c ∈ t.contributions) : c.error? = none := by
  have herrors := t.errors_contributions
  rw [ht] at herrors
  exact List.filterMap_eq_nil_iff.mp herrors c h

theorem currentAction_eq (options : Options) (t : TurnLog) :
    t.currentAction options =
      if t.ending.isNone && !options.closeFinalTurn then
        t.contributions.getLast?.map (Contribution.action (t.call options.outputLimit))
      else none := by
  rw [← currentAction_turn]
  rfl

theorem currentAction_of_mem_answer {options : Options} {t : TurnLog} {m : Message}
    (h : m ∈ t.answer options) : m.currentAction = t.currentAction options := by
  obtain ⟨_, rfl⟩ := (t.answer_eq_some_iff options m).mp h
  rfl

theorem isSome_currentAction_iff {options : Options} {t : TurnLog} (ht : t.ending = none)
    {m : Message} (h : m ∈ t.answer options) :
    m.currentAction.isSome ↔ options.closeFinalTurn = false := by
  have hspeaks := ((t.answer_eq_some_iff options m).mp h).1
  obtain ⟨c, hc⟩ := exists_getLast?_contributions hspeaks
  rw [currentAction_of_mem_answer h, currentAction_eq, ht, Option.mem_def.mp hc]
  cases options.closeFinalTurn <;> simp

theorem call_mem_toolCalls {options : Options} {t : TurnLog} {m : Message}
    (h : m ∈ t.answer options) {r : ToolReport} (hr : r ∈ t.reports) :
    t.call options.outputLimit r.id ∈ m.toolCalls := by
  rw [toolCalls_of_mem_answer h]
  have hid : r.id ∈ ToolReport.callIds t.reports :=
    List.mem_eraseDups.mpr (List.mem_map_of_mem hr)
  exact List.mem_map_of_mem hid

/-- The last contribution to a turn that goes on tells what is being done. -/
theorem exists_action_eq {options : Options} {t : TurnLog} (ht : t.ending = none) {m : Message}
    (h : m ∈ t.answer options) {action : String} (haction : action ∈ m.currentAction) :
    ∃ c ∈ t.contributions.getLast?, c.error? = none ∧
      action = c.action (t.call options.outputLimit) ∧
      ∀ r ∈ c.report?, t.call options.outputLimit r.id ∈ m.toolCalls := by
  have hopen := (isSome_currentAction_iff ht h).mp (Option.isSome_of_mem haction)
  have hwords : m.currentAction =
      t.contributions.getLast?.map (Contribution.action (t.call options.outputLimit)) := by
    rw [currentAction_of_mem_answer h, currentAction_eq, ht, hopen]
    rfl
  rw [hwords] at haction
  obtain ⟨c, hc, rfl⟩ := Option.map_eq_some_iff.mp haction
  have hmem : c ∈ t.contributions := List.mem_of_getLast? hc
  have hfailure : t.failure = none := by rw [failure, ht, Option.bind_none]
  refine ⟨c, hc, error?_of_mem_contributions hfailure hmem, rfl, fun r hr => ?_⟩
  exact call_mem_toolCalls h (List.mem_filterMap.mpr ⟨c, hmem, hr⟩)

end TurnLog

namespace Transcript

def ClosedIdle (t : Transcript) : Prop := ∀ m ∈ t.closed, m.currentAction = none

namespace ClosedIdle
variable {t : Transcript}

theorem step (h : ClosedIdle t) (limit : Nat) (record : UpdateRecord) :
    ClosedIdle (t.step limit record) := by
  unfold ClosedIdle
  by_cases hends : record.update.endsTurn
  · rw [step_of_endsTurn hends]
    intro m hm
    rcases List.mem_append.mp hm with hm | hshown
    · rcases List.mem_append.mp hm with hearlier | hanswer
      · exact h m hearlier
      · rw [Turn.closed_eq_message?, Option.mem_toList] at hanswer
        obtain ⟨_, rfl⟩ := Turn.mem_message?_iff.mp hanswer
        rfl
    · obtain ⟨_, time, update⟩ := record
      cases update with
      | userMessage content => rw [Message.eq_of_mem_ofUser hshown]
      | _ => exact absurd hshown List.not_mem_nil
  · rw [step_of_not_endsTurn hends]
    exact h

theorem extend (h : ClosedIdle t) (limit : Nat) (log : List UpdateRecord) :
    ClosedIdle (t.extend limit log) := by
  induction log generalizing t with
  | nil => exact h
  | cons record log ih => exact ih (h.step limit record)

end ClosedIdle

theorem currentAction_of_mem_aggregate_endedPart {options : Options} {log : List UpdateRecord}
    {m : Message} (h : m ∈ aggregate options (endedPart log)) : m.currentAction = none := by
  have hempty : ClosedIdle {} := List.forall_mem_nil _
  rw [aggregate_endedPart] at h
  exact hempty.extend options.outputLimit (endedPart log) m h

end Transcript

theorem getElem?_append_toList {α : Type} {xs : List α} {last : Option α} {i : Nat} {a : α}
    (h : (xs ++ last.toList)[i]? = some a) :
    (a ∈ xs ∧ i < xs.length) ∨ (last = some a ∧ i = xs.length) := by
  rw [List.getElem?_append] at h
  split at h
  · rename_i hlt
    exact .inl ⟨List.mem_of_getElem? h, hlt⟩
  · cases last with
    | none => simp at h
    | some b =>
      have hi : i - xs.length = 0 ∧ b = a := by simpa [List.getElem?_singleton] using h
      exact .inr ⟨congrArg some hi.2, by omega⟩

/-- The messages of a log are those of the turns that are over and then the answer in the open one,
if there is one. Only that says what the agent is doing, always unless the log is taken to be over,
and what it says is told by the last contribution to the turn, from calls that it shows. -/
theorem current_action_marks_open_turn (options : Options) (log : List UpdateRecord) :
    let messages := aggregate options log
    let t := openTurn log
    endedPart log ++ t.records = log ∧
      messages = aggregate options (endedPart log) ++ (t.answer options).toList ∧
      (∀ i m, messages[i]? = some m →
        (m.currentAction.isSome ↔ options.closeFinalTurn = false ∧ i + 1 = messages.length ∧
          t.answer options = some m)) ∧
      ∀ m ∈ messages, ∀ action ∈ m.currentAction,
        ∃ c ∈ t.contributions.getLast?, c.error? = none ∧
          action = c.action (t.call options.outputLimit) ∧
          ∀ r ∈ c.report?, t.call options.outputLimit r.id ∈ m.toolCalls := by
  intro messages t
  have hmessages : messages = aggregate options (endedPart log) ++ (t.answer options).toList :=
    Transcript.aggregate_eq_endedPart_append options log
  have hlength {n : Message} (hanswer : t.answer options = some n) :
      messages.length = (aggregate options (endedPart log)).length + 1 := by
    rw [hmessages, hanswer, Option.toList_some, List.length_append, List.length_singleton]
  refine ⟨endedPart_append_openTurn log, hmessages, ?_, ?_⟩
  · intro i m hi
    rw [hmessages] at hi
    rcases getElem?_append_toList hi with ⟨hended, hlt⟩ | ⟨hanswer, hlast⟩
    · rw [Transcript.currentAction_of_mem_aggregate_endedPart hended]
      refine iff_of_false Bool.false_ne_true ?_
      rintro ⟨_, hlast, hanswer⟩
      have hbehind := hlength hanswer
      omega
    · rw [TurnLog.isSome_currentAction_iff rfl hanswer]
      have hbehind : i + 1 = messages.length := by rw [hlength hanswer, hlast]
      exact ⟨fun h => ⟨h, hbehind, hanswer⟩, fun h => h.1⟩
  · intro m hm action haction
    rw [hmessages] at hm
    rcases List.mem_append.mp hm with hended | hanswer
    · rw [Transcript.currentAction_of_mem_aggregate_endedPart hended] at haction
      exact absurd haction (Option.not_mem_none action)
    · exact TurnLog.exists_action_eq rfl (Option.mem_toList.mp hanswer) haction

/-- A running tool has its title changed before records that add nothing. Then it is done, or
another is waiting. -/
theorem current_action_marks_open_turn_at_work :
    let record (u : Update) : UpdateRecord := ⟨none, none, u⟩
    let report (id : String) (title : Option String) (status : Option ToolStatus) : ToolReport :=
      ⟨id, title, status, none, none, none⟩
    let log := [record (.messageChunk (some (.text "a"))), record (.userMessage []),
      record (.toolCall (report "x" "grep" (some .inProgress))),
      record (.toolCall (report "y" none (some .failed))),
      record (.thoughtChunk (some (.text "b"))), record (.toolCallUpdate (report "x" "rg" none)),
      record (.messageChunk none), record (.unknown "z")]
    let done := record (.toolCallUpdate (report "x" none (some .completed)))
    let waiting := record (.toolCall (report "z" none none))
    (aggregate {} log).map Message.currentAction = [none, some "Running rg"] ∧
      (aggregate {} (log ++ [done])).map Message.currentAction = [none, some "Processing"] ∧
      (aggregate {} (log ++ [waiting])).map Message.currentAction =
        [none, some "Running Tool Call"] ∧
      ∀ (i : Nat) (o : Message), (aggregate { closeFinalTurn := true } log)[i]? = some o →
        o.currentAction = none := by
  intro record report log done waiting
  let m : Message := { role := .assistant, blocks := [.text "a"] }
  have hactions (log : List UpdateRecord) (hended : aggregate {} (endedPart log) = [m])
      (hanswer : ((openTurn log).answer {}).isSome) (c : Contribution)
      (hlast : (openTurn log).contributions.getLast? = some c) :
      (aggregate {} log).map Message.currentAction =
        [none, some (c.action ((openTurn log).call 500))] := by
    obtain ⟨_, hmessages, hmarked, haction⟩ := current_action_marks_open_turn {} log
    obtain ⟨n, hn⟩ := Option.isSome_iff_exists.mp hanswer
    have hboth : aggregate {} log = [m, n] := by
      rw [hmessages, hended, hn]
      rfl
    obtain ⟨action, hwords⟩ := Option.isSome_iff_exists.mp
      ((hmarked 1 n (by rw [hboth]; rfl)).mpr ⟨rfl, by rw [hboth]; rfl, hn⟩)
    obtain ⟨d, hd, _, rfl, _⟩ := haction n (by simp [hboth]) action hwords
    obtain rfl : c = d := Option.some.inj (hlast.symm.trans hd)
    rw [hboth]
    exact congrArg ([none, ·]) hwords
  have hover (i : Nat) (o : Message)
      (ho : (aggregate { closeFinalTurn := true } log)[i]? = some o) : o.currentAction = none := by
    obtain ⟨_, _, hmarked, _⟩ := current_action_marks_open_turn { closeFinalTurn := true } log
    rw [← Option.not_isSome_iff_eq_none, hmarked i o ho]
    exact fun h => absurd h.1 (by decide)
  refine ⟨?_, ?_, ?_, hover⟩
  · exact (hactions log (by decide) (by decide) _ rfl).trans (by decide)
  · exact (hactions _ (by decide) (by decide) _ rfl).trans (by decide)
  · exact (hactions _ (by decide) (by decide) _ rfl).trans (by decide)

end AgentTranscript
