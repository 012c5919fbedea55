import AgentTranscript.Proofs.Display.Messages
import AgentTranscript.Proofs.Display.Tool
import AgentTranscript.Proofs.Text.Words
import AgentTranscript.Proofs.Transcript.CurrentAction

/-! Line feeds in the lines shown. Texts, thoughts and outputs are cut into lines, so there are none
of theirs. The other strings of a message stand in a line as they are: a line feed in one of them
breaks its line, and that is the only way in which a line comes to be broken. -/
namespace AgentTranscript.Display

def Unbroken (s : String) : Prop := '\n' ∉ s.toList

instance (s : String) : Decidable (Unbroken s) := inferInstanceAs (Decidable (_ ∉ _))

def errorVerbatim (e : AgentError) : List String :=
  e.message :: (e.agentId.toList ++ e.authCommand.toList)

def userVerbatim : Block → List String
  | .image _ mimeType => [mimeType]
  | _ => []

/-- The strings of a block that an assistant's message shows as they are, the label of a tool as far
as there is room for it. -/
def agentVerbatim (width : Nat) : Block → List String
  | .plan entries => entries.map PlanEntry.content
  | .tool call => [Text.truncate (max (width - 16) 8) call.label]
  | .image _ mimeType => [mimeType]
  | .error e => errorVerbatim e
  | .text _ | .thought _ => []

/-- The strings that a message shows as they are. -/
def messageVerbatim (width : Nat) (m : Message) : List String :=
  match m.role with
  | .user => m.blocks.flatMap userVerbatim
  | .assistant => m.currentAction.toList ++ m.blocks.flatMap (agentVerbatim width)

/-! ### Strings without line feeds -/

theorem unbroken_append_iff (s t : String) : Unbroken (s ++ t) ↔ Unbroken s ∧ Unbroken t := by
  simp [Unbroken]

theorem unbroken_toString (n : Nat) : Unbroken (toString n) := by
  intro h
  have hdigits : '\n' ∈ Nat.toDigits 10 n := by simpa using h
  have hdigit := Nat.isDigit_of_mem_toDigits (by decide) (by decide) hdigits
  exact absurd hdigit (by decide)

theorem unbroken_ofList_of_mem_parts {s part : List Char} (h : part ∈ Text.parts s) :
    Unbroken (String.ofList part) := by
  intro hfeed
  rw [String.toList_ofList] at hfeed
  exact (Text.mem_of_mem_parts h hfeed).2 rfl

theorem unbroken_plain_iff (l : Line) : Unbroken l.plain ↔ ∀ s ∈ l.spans, Unbroken s.text := by
  simp [Unbroken, Line.plain, String.toList_join]

theorem unbroken_single_iff (text : String) (style : Style) :
    Unbroken (Line.single text style).plain ↔ Unbroken text := by
  simp [unbroken_plain_iff, Line.single]

/-! ### Lines without line feeds -/

def AllUnbroken (lines : List Line) : Prop := ∀ l ∈ lines, Unbroken l.plain

section
variable {p : Palette} {width : Nat}

theorem allUnbroken_append_iff (ls ms : List Line) :
    AllUnbroken (ls ++ ms) ↔ AllUnbroken ls ∧ AllUnbroken ms :=
  List.forall_mem_append

theorem allUnbroken_cons_iff (l : Line) (ls : List Line) :
    AllUnbroken (l :: ls) ↔ Unbroken l.plain ∧ AllUnbroken ls :=
  List.forall_mem_cons

theorem allUnbroken_flatMap_iff {α : Type} {f : α → List Line} {strings : α → List String}
    (h : ∀ a, AllUnbroken (f a) ↔ ∀ s ∈ strings a, Unbroken s) (as : List α) :
    AllUnbroken (as.flatMap f) ↔ ∀ s ∈ as.flatMap strings, Unbroken s := by
  simp only [AllUnbroken] at h
  simp only [AllUnbroken, List.forall_mem_flatMap, h]

theorem allUnbroken_textLines {mark : String} (hmark : Unbroken mark) (text : String)
    (style : Style) : AllUnbroken (textLines mark text style) := by
  intro l hl
  obtain ⟨part, hpart, rfl⟩ := List.mem_map.mp hl
  rw [unbroken_single_iff, unbroken_append_iff]
  refine ⟨hmark, ?_⟩
  split
  · decide
  · exact unbroken_ofList_of_mem_parts hpart

theorem unbroken_toolHeader_iff (call : ToolCall) :
    Unbroken (toolHeaderBy Text.columns p width call).plain ↔
      Unbroken (Text.truncate (max (width - 16) 8) call.label) := by
  have hicon : Unbroken ("  " ++ call.icon ++ " ") := by
    unfold ToolCall.icon
    cases call.category <;> decide
  have hstatus : Unbroken (" [" ++ call.status.label ++ "]") := by
    cases call.status <;> decide
  simp [unbroken_plain_iff, toolHeaderBy, Text.truncate, hicon, hstatus]

theorem unbroken_previewLine {call : ToolCall} {text : List Char} (h : text ∈ outputLines call) :
    Unbroken (previewLineBy Text.columns p width text).plain := by
  intro hfeed
  have hclean := clean_previewLineBy Text.columns p width (clean_of_mem_outputLines h)
  exact absurd (hclean '\n' hfeed (by decide)) (by decide)

theorem allUnbroken_hiddenLines (hidden : Nat) : AllUnbroken (hiddenLines p hidden) := by
  unfold hiddenLines
  split
  · exact List.forall_mem_nil _
  · refine List.forall_mem_singleton.mpr ((unbroken_single_iff _ _).mpr ?_)
    have hnumber := unbroken_toString hidden
    have hwords : Unbroken "    … " ∧ Unbroken " more lines" := by decide
    simp only [unbroken_append_iff, hnumber, hwords, and_self]

theorem allUnbroken_toolLines_iff (call : ToolCall) :
    AllUnbroken (toolLines p width call) ↔ ∀ s ∈ agentVerbatim width (.tool call), Unbroken s := by
  have houtput : AllUnbroken
      (((outputLines call).take previewLimit).map (previewLineBy Text.columns p width)) :=
    List.forall_mem_map.mpr fun _ htext => unbroken_previewLine (List.mem_of_mem_take htext)
  rw [toolLines, toolLinesBy_eq, allUnbroken_cons_iff, allUnbroken_append_iff,
    unbroken_toolHeader_iff, and_iff_left ⟨houtput, allUnbroken_hiddenLines _⟩]
  exact List.forall_mem_singleton.symm

theorem unbroken_planLine_iff (e : PlanEntry) :
    Unbroken (planLine p e).plain ↔ Unbroken e.content := by
  have hmark : Unbroken ("  " ++ planMark e.status ++ " ") := by
    cases e.status <;> decide
  rw [planLine, unbroken_single_iff, unbroken_append_iff, and_iff_right hmark]

theorem allUnbroken_errorLines_iff (e : AgentError) :
    AllUnbroken (errorLines p e) ↔ ∀ s ∈ errorVerbatim e, Unbroken s := by
  have hmark : Unbroken (errorMark e.kind) := by
    cases e.kind <;> decide
  have hbrackets : Unbroken " (" ∧ Unbroken ")" := by decide
  have hrun : Unbroken "  run: " := by decide
  obtain ⟨kind, message, authCommand, agentId⟩ := e
  cases authCommand <;> cases agentId <;>
    simp_all [AllUnbroken, errorLines, errorVerbatim, unbroken_plain_iff, unbroken_append_iff,
      Line.single, and_assoc]

theorem allUnbroken_userLines_iff (b : Block) :
    AllUnbroken (userLines p b) ↔ ∀ s ∈ userVerbatim b, Unbroken s := by
  cases b with
  | text s => exact iff_of_true (allUnbroken_textLines (by decide) s p.user) (List.forall_mem_nil _)
  | image data mimeType =>
    have hsize := unbroken_toString data.utf8ByteSize
    have hwords : Unbroken "> [image " ∧ Unbroken ", " ∧ Unbroken " bytes encoded]" := by decide
    simp only [AllUnbroken, userLines, userVerbatim, List.forall_mem_singleton,
      unbroken_single_iff, unbroken_append_iff, hsize, hwords, true_and, and_true]
  | _ => exact iff_of_true (List.forall_mem_nil _) (List.forall_mem_nil _)

theorem allUnbroken_agentLines_iff (b : Block) :
    AllUnbroken (agentLines p width b) ↔ ∀ s ∈ agentVerbatim width b, Unbroken s := by
  cases b with
  | thought s =>
    exact iff_of_true (allUnbroken_textLines (by decide) s p.thought) (List.forall_mem_nil _)
  | text s => exact iff_of_true (allUnbroken_textLines (by decide) s p.body) (List.forall_mem_nil _)
  | plan entries =>
    simp only [AllUnbroken, agentLines, agentVerbatim, List.forall_mem_map, unbroken_planLine_iff]
  | tool call => exact allUnbroken_toolLines_iff call
  | image data mimeType =>
    have hwords : Unbroken "[image " ∧ Unbroken "]" := by decide
    simp only [AllUnbroken, agentLines, agentVerbatim, List.forall_mem_singleton,
      unbroken_single_iff, unbroken_append_iff, hwords, true_and, and_true]
  | error e => exact allUnbroken_errorLines_iff e

theorem unbroken_agentHeader_iff (m : Message) :
    Unbroken (agentHeader p m).plain ↔ ∀ s ∈ m.currentAction.toList, Unbroken s := by
  have hwords : Unbroken "[agent]" ∧ Unbroken " " ∧ Unbroken "…" := by decide
  cases haction : m.currentAction <;>
    simp [unbroken_plain_iff, agentHeader, haction, unbroken_append_iff, hwords]

theorem allUnbroken_messageLines_iff (m : Message) :
    AllUnbroken (messageLines p width m) ↔ ∀ s ∈ messageVerbatim width m, Unbroken s := by
  unfold messageLines messageVerbatim
  cases m.role with
  | user => exact allUnbroken_flatMap_iff allUnbroken_userLines_iff m.blocks
  | assistant =>
    rw [allUnbroken_cons_iff, unbroken_agentHeader_iff, List.forall_mem_append,
      allUnbroken_flatMap_iff allUnbroken_agentLines_iff]

theorem allUnbroken_laterLines_iff (m : Message) :
    AllUnbroken (laterLines p width m) ↔ ∀ s ∈ messageVerbatim (max width 1) m, Unbroken s := by
  have hblank : Unbroken Line.blank.plain := by decide
  rw [laterLines, allUnbroken_cons_iff, allUnbroken_messageLines_iff]
  exact and_iff_right hblank

theorem allUnbroken_render_iff (ms : List Message) :
    AllUnbroken (render p width ms) ↔
      ∀ m ∈ ms, ∀ s ∈ messageVerbatim (max width 1) m, Unbroken s := by
  cases ms with
  | nil => exact iff_of_true (List.forall_mem_nil _) (List.forall_mem_nil _)
  | cons m ms =>
    rw [render_cons, allUnbroken_append_iff, allUnbroken_messageLines_iff,
      allUnbroken_flatMap_iff allUnbroken_laterLines_iff, List.forall_mem_flatMap,
      List.forall_mem_cons]

end

/-! ### Strings and the records that give them -/

def mimeType? : ContentItem → Option String
  | .image _ mimeType => some mimeType
  | _ => none

def updateVerbatim : Update → List String
  | .userMessage content => content.filterMap mimeType?
  | .toolCall r | .toolCallUpdate r => r.title.toList
  | .plan entries => entries.map PlanEntry.content
  | .error e => errorVerbatim e
  | _ => []

def contributionVerbatim : Contribution → List String
  | .report r => r.title.toList
  | .plan entries => entries.map PlanEntry.content
  | .error e => errorVerbatim e
  | .text _ | .thought _ => []

theorem contributionVerbatim_eq {u : Update} {c : Contribution} (h : c ∈ u.contribution?) :
    contributionVerbatim c = updateVerbatim u := by
  cases u with
  | messageChunk content =>
    rcases content with _ | _ | _ | _ <;> cases h
    rfl
  | thoughtChunk content =>
    rcases content with _ | _ | _ | _ <;> cases h
    rfl
  | _ => cases h <;> rfl

theorem flatMap_userVerbatim_userBlocks (content : List ContentItem) :
    (Message.userBlocks content).flatMap userVerbatim = content.filterMap mimeType? := by
  have himages : (content.filterMap ContentItem.imageBlock?).flatMap userVerbatim =
      content.filterMap mimeType? := by
    induction content with
    | nil => rfl
    | cons item content ih =>
      cases item with
      | image data mimeType => exact congrArg (mimeType :: ·) ih
      | _ => exact ih
  unfold Message.userBlocks
  rw [List.flatMap_append, himages]
  split <;> rfl

theorem unbroken_label {call : ToolCall} (h : Unbroken call.title) (room : Nat) :
    Unbroken (Text.truncate room call.label) := by
  have hlabel : Unbroken call.label := by
    have hcategory : Unbroken (call.category.label ++ " ") := by
      cases call.category <;> decide
    have htitle : Unbroken (Text.trim call.title) := by
      intro hfeed
      rw [Text.trim, String.toList_ofList] at hfeed
      exact h ((Text.trimChars_sublist _).subset hfeed)
    exact (unbroken_append_iff _ _).mpr ⟨hcategory, htitle⟩
  intro hfeed
  rw [Text.toList_truncate] at hfeed
  have hshown := Text.truncateBy_prefix Text.columns room call.label.toList
  exact hlabel (hshown.subset hfeed)

theorem unbroken_action {call : String → ToolCall} (h : ∀ id, Unbroken (call id).title)
    (c : Contribution) : Unbroken (c.action call) := by
  cases c with
  | report r =>
    have hrunning : Unbroken ("Running " ++ (call r.id).title) :=
      (unbroken_append_iff _ _).mpr ⟨by decide, h r.id⟩
    simp only [Contribution.action]
    split
    · exact hrunning
    · decide
  | _ =>
    simp only [Contribution.action]
    decide

section
variable {options : Options} {t : TurnLog} {m : Message}

/-- Whether no record of a turn gives a string with a line feed that a line can show as it is. -/
def GivesUnbroken (t : TurnLog) : Prop :=
  ∀ r ∈ t.records, ∀ s ∈ updateVerbatim r.update, Unbroken s

namespace GivesUnbroken

theorem contribution (h : GivesUnbroken t) {c : Contribution} (hc : c ∈ t.contributions) :
    ∀ s ∈ contributionVerbatim c, Unbroken s := by
  obtain ⟨r, hr, hc⟩ := List.mem_filterMap.mp hc
  rw [contributionVerbatim_eq hc]
  exact h r hr

theorem report (h : GivesUnbroken t) {r : ToolReport} (hr : r ∈ t.reports) {title : String}
    (htitle : title ∈ r.title) : Unbroken title := by
  obtain ⟨c, hc, hreport⟩ := List.mem_filterMap.mp hr
  cases c with
  | report r' =>
    obtain rfl : r' = r := Option.some.inj hreport
    exact h.contribution hc title (Option.mem_toList.mpr htitle)
  | _ => cases hreport

theorem plan (h : GivesUnbroken t) {entries : List PlanEntry} (hentries : entries ∈ t.plan) :
    ∀ s ∈ entries.map PlanEntry.content, Unbroken s := by
  obtain ⟨c, hc, hplan⟩ := List.mem_filterMap.mp (List.mem_of_getLast? hentries)
  cases c with
  | plan entries' =>
    obtain rfl : entries' = entries := Option.some.inj hplan
    exact h.contribution hc
  | _ => cases hplan

theorem failure (h : GivesUnbroken t) {e : AgentError} (he : e ∈ t.failure) :
    ∀ s ∈ errorVerbatim e, Unbroken s := by
  have hmem : e ∈ t.contributions.filterMap Contribution.error? := by
    rw [t.errors_contributions]
    exact Option.mem_toList.mpr he
  obtain ⟨c, hc, herror⟩ := List.mem_filterMap.mp hmem
  cases c with
  | error e' =>
    obtain rfl : e' = e := Option.some.inj herror
    exact h.contribution hc
  | _ => cases herror

theorem title (h : GivesUnbroken t) (limit : Nat) (id : String) :
    Unbroken (t.call limit id).title := by
  change Unbroken ((ToolReport.lastGiven ToolReport.givenTitle? (t.reportsOn id)).getD "Tool Call")
  cases hlast : ToolReport.lastGiven ToolReport.givenTitle? (t.reportsOn id) with
  | none => decide
  | some title =>
    obtain ⟨r, hr, htitle⟩ := List.mem_filterMap.mp (List.mem_of_getLast? hlast)
    exact h.report (List.mem_of_mem_filter hr) (Option.filter_eq_some_iff.mp htitle).1

theorem block (h : GivesUnbroken t) (limit width : Nat) {b : Block} (hb : b ∈ t.blocks limit) :
    ∀ s ∈ agentVerbatim width b, Unbroken s := by
  simp only [TurnLog.blocks, List.mem_append, List.mem_map, Option.mem_toList] at hb
  obtain (((⟨s, _, rfl⟩ | ⟨entries, hentries, rfl⟩) | ⟨call, hcall, rfl⟩) | ⟨s, _, rfl⟩) |
    ⟨e, he, rfl⟩ := hb
  · exact List.forall_mem_nil _
  · exact h.plan hentries
  · obtain ⟨id, _, rfl⟩ := List.mem_map.mp hcall
    exact List.forall_mem_singleton.mpr (unbroken_label (h.title limit id) _)
  · exact List.forall_mem_nil _
  · exact h.failure he

theorem action (h : GivesUnbroken t) {action : String}
    (haction : action ∈ t.currentAction options) : Unbroken action := by
  rw [TurnLog.currentAction_eq] at haction
  split at haction
  · obtain ⟨c, _, rfl⟩ := Option.map_eq_some_iff.mp haction
    exact unbroken_action (h.title options.outputLimit) c
  · exact absurd haction (Option.not_mem_none action)

theorem answer (h : GivesUnbroken t) (width : Nat) (hm : m ∈ t.answer options) :
    ∀ s ∈ messageVerbatim width m, Unbroken s := by
  rw [messageVerbatim, Turn.role_of_mem_message? hm]
  intro s hs
  obtain haction | hblock := List.mem_append.mp hs
  · rw [TurnLog.currentAction_of_mem_answer hm, Option.mem_toList] at haction
    exact h.action haction
  · rw [TurnLog.blocks_of_mem_answer hm] at hblock
    obtain ⟨b, hb, hs⟩ := List.mem_flatMap.mp hblock
    exact h.block _ width hb s hs

theorem shown (h : GivesUnbroken t) (width : Nat) (hm : m ∈ t.shown) :
    ∀ s ∈ messageVerbatim width m, Unbroken s := by
  obtain ⟨⟨_, time, update⟩, hending, hm⟩ := List.mem_flatMap.mp hm
  have hgiven := h _ (List.mem_append_right t.during hending)
  cases update with
  | userMessage content =>
    rw [Message.eq_of_mem_ofUser hm]
    change ∀ s ∈ (Message.userBlocks content).flatMap userVerbatim, Unbroken s
    rw [flatMap_userVerbatim_userBlocks]
    exact hgiven
  | _ => exact absurd hm List.not_mem_nil

end GivesUnbroken
end

/-- Of the strings that are shown as they are, those of a log's messages have line feeds only if
those of its records do. -/
theorem unbroken_of_mem_aggregate {options : Options} {log : List UpdateRecord}
    (h : ∀ r ∈ log, ∀ s ∈ updateVerbatim r.update, Unbroken s) {m : Message}
    (hm : m ∈ aggregate options log) (width : Nat) :
    ∀ s ∈ messageVerbatim width m, Unbroken s := by
  obtain ⟨t, ht, hm⟩ := exists_mem_turns_of_mem_aggregate hm
  have hgives : GivesUnbroken t := fun r hr => h r (mem_of_mem_turns ht hr)
  obtain hanswer | hshown := hm
  · exact hgives.answer width hanswer
  · exact hgives.shown width hshown

/-- The lines in which a log is shown have no line feeds in them just if the strings have none that
its messages show as they are: what the agent is doing, the steps of plans, the labels of tools as
far as there is room for them, the types of images and the strings of errors. There are none of
texts, of thoughts or of outputs among these. So lines are never broken if no record gives a title,
a step, a type of an image or a string of an error that has a line feed in it. -/
theorem lines_are_unbroken_iff (p : Palette) (width : Nat) (options : Options)
    (log : List UpdateRecord) :
    let messages := aggregate options log
    let lines := (render p width messages).map Line.plain
    ((∀ l ∈ lines, Unbroken l) ↔
        ∀ m ∈ messages, ∀ s ∈ messageVerbatim (max width 1) m, Unbroken s) ∧
      ((∀ r ∈ log, ∀ s ∈ updateVerbatim r.update, Unbroken s) → ∀ l ∈ lines, Unbroken l) := by
  intro messages lines
  have hlines : (∀ l ∈ lines, Unbroken l) ↔
      ∀ m ∈ messages, ∀ s ∈ messageVerbatim (max width 1) m, Unbroken s :=
    List.forall_mem_map.trans (allUnbroken_render_iff messages)
  exact ⟨hlines, fun h => hlines.mpr fun m hm => unbroken_of_mem_aggregate h hm (max width 1)⟩

/-- Texts, a thought, an output and the words for a kind of tool, all with line feeds in them. -/
theorem lines_are_unbroken_iff_of_texts :
    let record (u : Update) : UpdateRecord := ⟨none, none, u⟩
    let log := [record (.userMessage [.text "a\nb", .image "" "image/png"]),
      record (.thoughtChunk (some (.text "c\nd"))), record (.plan [⟨"e", .pending⟩]),
      record (.toolCall ⟨"x\ny", some "f", some .completed, some "g\nh", none,
        some (.string "i\r\nj")⟩),
      record (.messageChunk (some (.text "k\nl")))]
    let lines := (render Theme.graphite.palette 80 (aggregate {} log)).map Line.plain
    (∀ r ∈ log, ∀ s ∈ updateVerbatim r.update, Unbroken s) ∧ (∀ l ∈ lines, Unbroken l) ∧
      lines = ["> a", "> b", "> [image image/png, 0 bytes encoded]", "", "[agent] Responding…",
        "  ~ c", "  ~ d", "  [ ] e", "  • Tool f [done]", "    i", "    j", "k", "l"] := by
  intro record log lines
  have hgiven : ∀ r ∈ log, ∀ s ∈ updateVerbatim r.update, Unbroken s := by decide
  have hlines := (lines_are_unbroken_iff Theme.graphite.palette 80 {} log).2 hgiven
  exact ⟨hgiven, hlines, by decide +kernel⟩

/-- The message of an error is shown as it is, so a line feed in it breaks the line. -/
theorem error_breaks_line :
    let down : AgentError := ⟨.general, "first\nsecond", none, none⟩
    let lines := (render Theme.graphite.palette 100 (aggregate {} [⟨none, none, .error down⟩])).map
      Line.plain
    lines = ["[agent]", "[error] first\nsecond"] ∧ ∃ l ∈ lines, ¬ Unbroken l := by
  decide

end AgentTranscript.Display
