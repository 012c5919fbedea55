import AgentTranscript.Proofs.Tool.Merge
import AgentTranscript.Proofs.Transcript.Turns

/-! What the assistant's message of a turn is made of, told from the records of the turn alone: its
thoughts and its texts put together, its last plan, its tool calls as they were last reported and
the error that ended it. A turn in which there is none of these makes no message. -/
namespace AgentTranscript

namespace Contribution

def text? : Contribution → Option String
  | text s => some s
  | _ => none

def thought? : Contribution → Option String
  | thought s => some s
  | _ => none

def report? : Contribution → Option ToolReport
  | report r => some r
  | _ => none

def plan? : Contribution → Option (List PlanEntry)
  | plan entries => some entries
  | _ => none

def error? : Contribution → Option AgentError
  | error e => some e
  | _ => none

end Contribution

namespace Turn

/-! ### A turn and what was added to it -/

section
variable (limit : Nat) (t : Turn) (time : Option Timestamp) (c : Contribution)

theorem text_add : (t.add limit time c).text = t.text ++ String.join c.text?.toList := by
  cases c with
  | text s => exact congrArg (t.text ++ ·) String.empty_append.symm
  | _ => exact String.append_empty.symm

theorem thought_add :
    (t.add limit time c).thought = t.thought ++ String.join c.thought?.toList := by
  cases c with
  | thought s => exact congrArg (t.thought ++ ·) String.empty_append.symm
  | _ => exact String.append_empty.symm

theorem tools_add :
    (t.add limit time c).tools = c.report?.elim t.tools (ToolCall.report limit · t.tools) := by
  cases c <;> rfl

theorem plan_add : (t.add limit time c).plan = c.plan?.or t.plan := by
  cases c <;> rfl

theorem errors_add : (t.add limit time c).errors = t.errors ++ c.error?.toList := by
  cases c with
  | error e => rfl
  | _ => exact (List.append_nil _).symm

end

/-- What a turn holds to which these things were added, one after the other. -/
structure Gathers (limit : Nat) (cs : List Contribution) (t : Turn) : Prop where
  text_eq : t.text = String.join (cs.filterMap Contribution.text?)
  thought_eq : t.thought = String.join (cs.filterMap Contribution.thought?)
  tools_eq : t.tools = ToolCall.ofAllReports limit (cs.filterMap Contribution.report?)
  plan_eq : t.plan = (cs.filterMap Contribution.plan?).getLast?
  errors_eq : t.errors = cs.filterMap Contribution.error?

namespace Gathers
variable {limit : Nat} {cs : List Contribution} {t : Turn}

theorem new (limit : Nat) : Gathers limit [] {} := ⟨rfl, rfl, rfl, rfl, rfl⟩

theorem add (h : Gathers limit cs t) (time : Option Timestamp) (c : Contribution) :
    Gathers limit (cs ++ [c]) (t.add limit time c) where
  text_eq := by rw [text_add, filterMap_concat, String.join_append, h.text_eq]
  thought_eq := by rw [thought_add, filterMap_concat, String.join_append, h.thought_eq]
  tools_eq := by
    rw [tools_add, filterMap_concat, h.tools_eq]
    cases c.report? with
    | none => rw [Option.toList_none, List.append_nil, Option.elim_none]
    | some r => exact ToolCall.report_ofAllReports limit _ r
  plan_eq := by rw [plan_add, getLast?_filterMap_concat, h.plan_eq]
  errors_eq := by rw [errors_add, filterMap_concat, h.errors_eq]

theorem take (h : Gathers limit cs t) (r : UpdateRecord) :
    Gathers limit (cs ++ r.update.contribution?.toList) (t.take limit r) := by
  unfold Turn.take
  cases r.update.contribution? with
  | none => simpa using h
  | some c => exact h.add r.timestamp c

theorem foldl_take (h : Gathers limit cs t) (log : List UpdateRecord) :
    Gathers limit (cs ++ log.filterMap (·.update.contribution?))
      (log.foldl (Turn.take limit) t) := by
  induction log generalizing cs t with
  | nil => simpa using h
  | cons r log ih =>
    have hrest := ih (h.take r)
    have hcs : (r :: log).filterMap (·.update.contribution?) =
        r.update.contribution?.toList ++ log.filterMap (·.update.contribution?) := by
      cases hr : r.update.contribution? <;> simp [hr]
    rwa [List.append_assoc, ← hcs] at hrest

end Gathers
end Turn

/-! ### What the records of a turn say -/

namespace TurnLog

def contributions (t : TurnLog) : List Contribution :=
  t.records.filterMap (·.update.contribution?)

def text (t : TurnLog) : String := String.join (t.contributions.filterMap Contribution.text?)

def thought (t : TurnLog) : String :=
  String.join (t.contributions.filterMap Contribution.thought?)

def reports (t : TurnLog) : List ToolReport := t.contributions.filterMap Contribution.report?

def plan (t : TurnLog) : Option (List PlanEntry) :=
  (t.contributions.filterMap Contribution.plan?).getLast?

/-- The error that ended the turn. -/
def failure (t : TurnLog) : Option AgentError :=
  t.ending.bind fun e =>
    match e.update with
    | .error err => some err
    | _ => none

/-- Whether there is anything of the assistant in the turn. -/
def Speaks (t : TurnLog) : Prop :=
  ¬ Text.isBlankText t.text ∨ ¬ Text.isBlankText t.thought ∨ t.reports ≠ [] ∨ t.plan.isSome ∨
    t.failure.isSome

instance (t : TurnLog) : Decidable t.Speaks :=
  inferInstanceAs (Decidable (_ ∨ _ ∨ _ ∨ _ ∨ _))

def trimmed? (s : String) : Option String :=
  if Text.isBlankText s then none else some (Text.trim s)

/-- The thought, the plan, the tool calls, the text and the error. -/
def blocks (limit : Nat) (t : TurnLog) : List Block :=
  (trimmed? t.thought).toList.map .thought ++ t.plan.toList.map .plan ++
    (ToolCall.ofAllReports limit t.reports).map .tool ++ (trimmed? t.text).toList.map .text ++
    t.failure.toList.map .error

theorem gathers (limit : Nat) (t : TurnLog) : (t.turn limit).Gathers limit t.contributions :=
  (Turn.Gathers.new limit).foldl_take t.records

theorem error?_of_not_endsTurn {u : Update} (h : ¬ u.endsTurn) :
    u.contribution?.bind Contribution.error? = none := by
  cases u with
  | error e => exact absurd rfl h
  | messageChunk content => rcases content with _ | _ | _ | _ <;> rfl
  | thoughtChunk content => rcases content with _ | _ | _ | _ <;> rfl
  | _ => rfl

theorem errors_contributions (t : TurnLog) :
    t.contributions.filterMap Contribution.error? = t.failure.toList := by
  have hduring : t.during.filterMap (fun r => r.update.contribution?.bind Contribution.error?) =
      [] :=
    List.filterMap_eq_nil_iff.mpr fun r hr => error?_of_not_endsTurn (t.during_goesOn r hr)
  rw [contributions, List.filterMap_filterMap, records, List.filterMap_append, hduring]
  unfold failure
  cases t.ending with
  | none => rfl
  | some e =>
    obtain ⟨_, time, update⟩ := e
    cases update with
    | messageChunk content => rcases content with _ | _ | _ | _ <;> rfl
    | thoughtChunk content => rcases content with _ | _ | _ | _ <;> rfl
    | _ => rfl

theorem textBlock_eq (block : String → Block) (s : String) :
    Turn.textBlock block s = (trimmed? s).toList.map block := by
  by_cases h : (Text.trim s).isEmpty <;> simp [Turn.textBlock, trimmed?, Text.isBlankText, h]

theorem blocks_turn (limit : Nat) (t : TurnLog) : (t.turn limit).blocks = t.blocks limit := by
  have h := t.gathers limit
  rw [Turn.blocks, h.text_eq, h.thought_eq, h.tools_eq, h.plan_eq, h.errors_eq,
    errors_contributions, textBlock_eq, textBlock_eq]
  simp only [blocks, thought, text, plan, reports, Option.toList_map]

theorem hasContent_turn_iff (limit : Nat) (t : TurnLog) :
    (t.turn limit).hasContent ↔ t.Speaks := by
  have h := t.gathers limit
  rw [Turn.hasContent, h.text_eq, h.thought_eq, h.tools_eq, h.plan_eq, h.errors_eq,
    errors_contributions]
  simp [Speaks, text, thought, plan, reports, or_assoc, ToolCall.ofAllReports_eq_nil_iff,
    Option.isSome_iff_ne_none]

theorem answer_eq_some_iff (options : Options) (t : TurnLog) (m : Message) :
    t.answer options = some m ↔ t.Speaks ∧
      m = (t.turn options.outputLimit).toMessage (t.endTime options) (t.currentAction options) := by
  rw [← hasContent_turn_iff options.outputLimit]
  exact Turn.mem_message?_iff

theorem isSome_answer_iff (options : Options) (t : TurnLog) :
    (t.answer options).isSome ↔ t.Speaks := by
  rw [← hasContent_turn_iff options.outputLimit]
  exact Turn.isSome_message?_iff

theorem answer_eq_none {t : TurnLog} (h : ¬ t.Speaks) (options : Options) :
    t.answer options = none := by
  rwa [← Option.not_isSome_iff_eq_none, isSome_answer_iff]

theorem answer_eq_some {t : TurnLog} (h : t.Speaks) (options : Options) :
    t.answer options = some
      ((t.turn options.outputLimit).toMessage (t.endTime options) (t.currentAction options)) :=
  (t.answer_eq_some_iff options _).mpr ⟨h, rfl⟩

theorem exists_mem_answer {t : TurnLog} (h : t.Speaks) (options : Options) :
    ∃ m, m ∈ t.answer options :=
  ⟨_, answer_eq_some h options⟩

theorem blocks_of_mem_answer {options : Options} {t : TurnLog} {m : Message}
    (h : m ∈ t.answer options) : m.blocks = t.blocks options.outputLimit := by
  obtain ⟨_, rfl⟩ := (t.answer_eq_some_iff options m).mp h
  exact t.blocks_turn options.outputLimit

theorem blocks_ne_nil {t : TurnLog} (h : t.Speaks) (limit : Nat) : t.blocks limit ≠ [] := by
  rcases h with h | h | h | h | h
  · simp [blocks, trimmed?, h]
  · simp [blocks, trimmed?, h]
  · simp [blocks, ToolCall.ofAllReports_eq_nil_iff, h]
  · obtain ⟨entries, he⟩ := Option.isSome_iff_exists.mp h
    simp [blocks, he]
  · obtain ⟨e, he⟩ := Option.isSome_iff_exists.mp h
    simp [blocks, he]

end TurnLog

/-! ### Errors in messages -/

/-- Whether an error is the last of these blocks wherever there is one, and the only one. -/
def ErrorsLast (blocks : List Block) : Prop :=
  ∀ before e after, blocks = before ++ .error e :: after →
    after = [] ∧ ∀ other, .error other ∉ before

theorem errorsLast_of_not_mem {blocks : List Block} (h : ∀ e, .error e ∉ blocks) :
    ErrorsLast blocks := by
  rintro before e after rfl
  exact absurd (by simp) (h e)

theorem errorsLast_concat {blocks : List Block} (h : ∀ e, .error e ∉ blocks) (e : AgentError) :
    ErrorsLast (blocks ++ [.error e]) := by
  intro before other after heq
  rcases after.eq_nil_or_concat with rfl | ⟨after, last, rfl⟩
  · have hbefore : blocks = before := (List.append_inj' heq rfl).1
    exact ⟨rfl, hbefore ▸ h⟩
  · -- An error that is not the last block would be among the others.
    have hends : blocks ++ [.error e] = (before ++ .error other :: after) ++ [last] := by
      simpa using heq
    have hsplit : blocks = before ++ .error other :: after := (List.append_inj' hends rfl).1
    exact absurd (by simp [hsplit]) (h other)

theorem TurnLog.errorsLast_blocks (limit : Nat) (t : TurnLog) : ErrorsLast (t.blocks limit) := by
  have hothers (e : AgentError) : Block.error e ∉
      (trimmed? t.thought).toList.map .thought ++ t.plan.toList.map .plan ++
        (ToolCall.ofAllReports limit t.reports).map .tool ++
        (trimmed? t.text).toList.map .text := by
    simp
  unfold blocks
  cases t.failure with
  | none => simpa using errorsLast_of_not_mem hothers
  | some e => exact errorsLast_concat hothers e

theorem Message.mem_userBlocks {content : List ContentItem} {b : Block}
    (h : b ∈ userBlocks content) :
    (∃ s, b = .text s) ∨ ∃ data mimeType, b = .image data mimeType := by
  rcases List.mem_append.mp h with h | h
  · split at h
    · exact absurd h List.not_mem_nil
    · exact .inl ⟨_, List.mem_singleton.mp h⟩
  · obtain ⟨item, _, hitem⟩ := List.mem_filterMap.mp h
    cases item with
    | image data mimeType => exact .inr ⟨data, mimeType, (Option.some.inj hitem).symm⟩
    | _ => exact absurd hitem (Option.some_ne_none b).symm

theorem Message.eq_of_mem_ofUser {content : List ContentItem} {m : Message}
    (h : m ∈ ofUser content) : m = { role := .user, blocks := userBlocks content } := by
  by_cases hnothing : (userBlocks content).isEmpty
  · simp [ofUser, hnothing] at h
  · simpa [ofUser, hnothing] using h

theorem TurnLog.eq_of_mem_shown {t : TurnLog} {m : Message} (h : m ∈ t.shown) :
    ∃ content, m = { role := .user, blocks := Message.userBlocks content } := by
  obtain ⟨⟨_, time, update⟩, _, hm⟩ := List.mem_flatMap.mp h
  cases update with
  | userMessage content => exact ⟨content, Message.eq_of_mem_ofUser hm⟩
  | _ => exact absurd hm List.not_mem_nil

theorem TurnLog.mem_shown {t : TurnLog} {m : Message} (h : m ∈ t.shown) :
    m.role = .user ∧ ∃ content, m.blocks = Message.userBlocks content := by
  obtain ⟨content, rfl⟩ := eq_of_mem_shown h
  exact ⟨rfl, content, rfl⟩

/-- Of every course of turns, and so of every log: the assistant answers in just those turns in
which it speaks, with the blocks told from the turn's records. So no message of the assistant is
empty, and an error stands last in its message and alone. -/
theorem blocks_of_turns (options : Options) :
    (∀ ts, IsCourse ts → ∃ answer : TurnLog → Option Message,
      aggregate options (ts.flatMap TurnLog.records) =
          ts.flatMap (fun t => (answer t).toList ++ t.shown) ∧
        ∀ t, ((answer t).isSome ↔ t.Speaks) ∧
          (∀ m ∈ answer t, m.role = .assistant ∧ m.blocks = t.blocks options.outputLimit) ∧
          ∀ m ∈ t.shown, m.role = .user) ∧
      (∀ log, ∃ ts, IsCourse ts ∧ ts.flatMap TurnLog.records = log) ∧
      ∀ log, ∀ m ∈ aggregate options log,
        (m.role = .assistant → m.blocks ≠ []) ∧ ErrorsLast m.blocks := by
  refine ⟨?_, exists_isCourse, ?_⟩
  · intro ts hcourse
    refine ⟨TurnLog.answer options, hcourse.aggregate_eq options, fun t => ?_⟩
    exact ⟨t.isSome_answer_iff options,
      fun m hm => ⟨Turn.role_of_mem_message? hm, TurnLog.blocks_of_mem_answer hm⟩,
      fun m hm => (TurnLog.mem_shown hm).1⟩
  · intro log m hm
    obtain ⟨ts, hcourse, rfl⟩ := exists_isCourse log
    rw [hcourse.aggregate_eq options, List.mem_flatMap] at hm
    obtain ⟨t, _, hm⟩ := hm
    rcases List.mem_append.mp hm with hanswer | hshown
    · rw [Option.mem_toList] at hanswer
      obtain ⟨hspeaks, _⟩ := (t.answer_eq_some_iff options m).mp hanswer
      rw [TurnLog.blocks_of_mem_answer hanswer]
      exact ⟨fun _ => TurnLog.blocks_ne_nil hspeaks _, t.errorsLast_blocks _⟩
    · obtain ⟨hrole, content, hblocks⟩ := TurnLog.mem_shown hshown
      have hnoError (e : AgentError) : .error e ∉ m.blocks := by
        intro he
        rcases Message.mem_userBlocks (hblocks ▸ he) with ⟨_, h⟩ | ⟨_, _, h⟩ <;> cases h
      exact ⟨fun h => absurd (hrole.symm.trans h) (by decide), errorsLast_of_not_mem hnoError⟩

/-- A plan with no steps and a text are shown before the error; the blank text after it is not. -/
theorem blocks_of_turns_past_a_failure :
    let record (u : Update) : UpdateRecord := ⟨none, none, u⟩
    let chunk (s : String) := record (.messageChunk (some (.text s)))
    let down : AgentError := ⟨.general, "down", none, none⟩
    ∃ t u : TurnLog, t.records = [record (.plan []), chunk "a ", chunk "b ", record (.error down)] ∧
      u.records = [chunk " "] ∧ IsCourse [t, u] ∧
      ∃ m, aggregate {} (t.records ++ u.records) = [m] ∧ m.role = .assistant ∧
        m.blocks = [.plan [], .text "a b", .error down] ∧ ErrorsLast m.blocks := by
  intro record chunk down
  let t : TurnLog :=
    { during := [record (.plan []), chunk "a ", chunk "b "]
      ending := some (record (.error down))
      during_goesOn := by simp [record, chunk, Update.endsTurn]
      ending_endsTurn := by simp [record, Update.endsTurn] }
  let u : TurnLog := .ongoing [chunk " "] (by simp [record, chunk, Update.endsTurn])
  have hcourse : IsCourse [t, u] := .cons rfl (.singleton u)
  obtain ⟨hturns, _, hmessages⟩ := blocks_of_turns {}
  obtain ⟨answer, haggregate, hanswer⟩ := hturns [t, u] hcourse
  have hspeaks : t.Speaks := by decide
  have hsilent : ¬ u.Speaks := by decide
  obtain ⟨m, hm⟩ := Option.isSome_iff_exists.mp ((hanswer t).1.mpr hspeaks)
  have hnone : answer u = none := by
    rwa [← Option.not_isSome_iff_eq_none, (hanswer u).1]
  have hshown : t.shown = [] ∧ u.shown = [] := ⟨rfl, rfl⟩
  have hmessage : aggregate {} (t.records ++ u.records) = [m] := by
    calc
      aggregate {} (t.records ++ u.records) = aggregate {} ([t, u].flatMap TurnLog.records) := rfl
      _ = [t, u].flatMap fun v => (answer v).toList ++ v.shown := haggregate
      _ = [m] := by simp [hm, hnone, hshown]
  obtain ⟨hrole, hblocks⟩ := (hanswer t).2.1 m hm
  have heval : t.blocks 500 = [.plan [], .text "a b", .error down] := by decide
  have hlast := (hmessages (t.records ++ u.records) m (by simp [hmessage])).2
  exact ⟨t, u, rfl, rfl, hcourse, m, hmessage, hrole, hblocks.trans heval, hlast⟩

end AgentTranscript
