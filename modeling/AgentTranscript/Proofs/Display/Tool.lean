import AgentTranscript.Display.Render
import AgentTranscript.Proofs.Text.Lines
import AgentTranscript.Proofs.Text.Terminal
import AgentTranscript.Proofs.Text.Width

/-! How tool calls are shown. Whatever a tool is called and whatever it puts out, its lines keep to
the width that there is, but for the least that a line takes, and only the first lines of an output
are among them, without anything that a terminal would act on. -/
namespace AgentTranscript.Display
open Text (widthBy widthBy_cons widthBy_append truncateBy)
variable {measure : Char → Nat}

def outputLines (call : ToolCall) : List (List Char) :=
  (call.output.map fun output => Text.lines (Text.sanitize output).toList).getD []

/-- What the lines of a tool call need of a measure of characters: how wide it has the characters
that they put around texts. -/
structure MeasuresMarks (measure : Char → Nat) : Prop where
  space : measure ' ' = 1
  icon : ∀ c : ToolCategory, widthBy measure c.icon.toList = 1
  label : ∀ s : ToolStatus, widthBy measure ("[" ++ s.label ++ "]").toList ≤ 9

/-- Whether a line shows the longest beginning of a text that fits behind four spaces, with no
control characters but tabs. -/
structure IsPreview (measure : Char → Nat) (width : Nat) (text : List Char) (l : Line) : Prop where
  shows : ∃ shown, l.plain.toList = [' ', ' ', ' ', ' '] ++ shown ∧
    (width ≤ 4 → shown = []) ∧ (4 < width → Text.IsLongestFit measure (width - 4) text shown)
  width_le : widthBy measure l.plain.toList ≤ max width 4
  clean : ∀ c ∈ l.plain.toList, Text.IsControlChar c → c = '\t'

theorem measuresMarks_columns : MeasuresMarks Text.columns where
  space := by decide
  icon c := by cases c <;> decide +kernel
  label s := by cases s <;> decide

/-! ### The header -/

theorem width_toolHeaderBy_le (h : MeasuresMarks measure) (p : Palette) (width : Nat)
    (call : ToolCall) : widthBy measure (toolHeaderBy measure p width call).plain.toList ≤
      max width 22 := by
  have hplain : (toolHeaderBy measure p width call).plain.toList =
      [' ', ' '] ++ (call.icon.toList ++ ([' '] ++
        (truncateBy measure (max (width - 16) 8) call.label.toList ++
          ([' '] ++ ("[" ++ call.status.label ++ "]").toList)))) := by
    simp [toolHeaderBy, Line.plain, String.join]
  have hicon : widthBy measure call.icon.toList = 1 := h.icon call.category
  have hspace : widthBy measure [' '] = 1 := h.space
  have hspaces : widthBy measure [' ', ' '] = 2 := by
    rw [widthBy_cons, hspace, h.space]
  have htitle := Text.widthBy_truncateBy_le measure (max (width - 16) 8) call.label.toList
  have hstatus := h.label call.status
  rw [hplain]
  simp only [widthBy_append, hicon, hspace, hspaces]
  omega

/-! ### The output -/

theorem toList_plain_previewLineBy (measure : Char → Nat) (p : Palette) (width : Nat)
    (text : List Char) :
    (previewLineBy measure p width text).plain.toList =
      [' ', ' ', ' ', ' '] ++ truncateBy measure (width - 4) text := by
  simp [previewLineBy, Line.single, Line.plain, String.join]

theorem clean_previewLineBy (measure : Char → Nat) (p : Palette) (width : Nat) {text : List Char}
    (h : ∀ c ∈ text, Text.IsControlChar c → c = '\t') :
    ∀ c ∈ (previewLineBy measure p width text).plain.toList, Text.IsControlChar c → c = '\t' := by
  intro c hc hcontrol
  rw [toList_plain_previewLineBy, List.mem_append] at hc
  obtain hspace | hc := hc
  · obtain rfl : c = ' ' := by simpa using hspace
    exact absurd hcontrol (by decide)
  · exact h c ((Text.truncateBy_prefix _ _ _).subset hc) hcontrol

theorem isPreview_previewLineBy (hmeasure : MeasuresMarks measure) (p : Palette) (width : Nat)
    {text : List Char} (h : ∀ c ∈ text, Text.IsControlChar c → c = '\t') :
    IsPreview measure width text (previewLineBy measure p width text) where
  shows := by
    refine ⟨_, toList_plain_previewLineBy measure p width text, fun hnarrow => ?_, fun hwide => ?_⟩
    · rw [Nat.sub_eq_zero_of_le hnarrow, Text.truncateBy_zero]
    · exact Text.isLongestFit_truncateBy (Nat.sub_pos_of_lt hwide) text
  width_le := by
    have hspaces : widthBy measure [' ', ' ', ' ', ' '] = 4 := by
      simp only [widthBy_cons, hmeasure.space]
      rfl
    have htext := Text.widthBy_truncateBy_le measure (width - 4) text
    rw [toList_plain_previewLineBy, widthBy_append, hspaces]
    omega
  clean := clean_previewLineBy measure p width h

theorem clean_of_mem_outputLines {call : ToolCall} {text : List Char}
    (h : text ∈ outputLines call) : ∀ c ∈ text, Text.IsControlChar c → c = '\t' := by
  intro c hc hcontrol
  unfold outputLines at h
  cases houtput : call.output with
  | none => simp [houtput] at h
  | some output =>
    rw [houtput] at h
    obtain ⟨hmem, hfeed⟩ := Text.mem_of_mem_lines h hc
    have hclean : Text.IsClean (Text.sanitize output).toList := by
      rw [Text.toList_sanitize]
      exact Text.isClean_scan _ _ _
    exact (hclean c hmem hcontrol).resolve_left hfeed

def hiddenLines (p : Palette) (hidden : Nat) : List Line :=
  if hidden = 0 then [] else [.single ("    … " ++ toString hidden ++ " more lines") p.muted]

theorem toolLinesBy_eq (measure : Char → Nat) (p : Palette) (width : Nat) (call : ToolCall) :
    toolLinesBy measure p width call =
      toolHeaderBy measure p width call ::
        (((outputLines call).take previewLimit).map (previewLineBy measure p width) ++
          hiddenLines p ((outputLines call).length - previewLimit)) := by
  unfold toolLinesBy outputLines
  cases call.output with
  | none => rfl
  | some output =>
    simp only [Option.map_some, Option.getD_some, Text.toList_sanitize]
    rfl

theorem map_plain_hiddenLines (p : Palette) (n : Nat) :
    (hiddenLines p (n - 6)).map Line.plain =
      if 6 < n then ["    … " ++ toString (n - 6) ++ " more lines"] else [] := by
  unfold hiddenLines
  by_cases h : 6 < n
  · rw [if_pos h, if_neg (by omega)]
    simp [Line.single, Line.plain, String.join]
  · rw [if_neg h, if_pos (by omega)]
    rfl

/-- A tool call is shown as a header, then, for each of the first six lines of its output, as much
of that line as fits, and last, just if there are more lines, the number of them. The header takes
at most the columns that there are, or 22 of them, and the lines of the output these or four. This
holds of any measure that has the icons, the statuses and the spaces no wider than they are, and so
of the columns of a terminal. -/
theorem tool_lines_fit (p : Palette) (width : Nat) (call : ToolCall) :
    let room := max width 1
    let texts := outputLines call
    (toolLines p room call = toolLinesBy Text.columns p room call ∧ MeasuresMarks Text.columns) ∧
      ∀ measure : Char → Nat, MeasuresMarks measure →
        ∃ header previews more, toolLinesBy measure p room call = header :: (previews ++ more) ∧
          widthBy measure header.plain.toList ≤ max room 22 ∧
          previews.length = min texts.length 6 ∧
          List.Forall₂ (IsPreview measure room) (texts.take 6) previews ∧
          more.map Line.plain =
            if 6 < texts.length then ["    … " ++ toString (texts.length - 6) ++ " more lines"]
            else [] := by
  intro room texts
  refine ⟨⟨rfl, measuresMarks_columns⟩, fun measure hmeasure => ?_⟩
  refine ⟨_, _, _, toolLinesBy_eq measure p room call, width_toolHeaderBy_le hmeasure p room call,
    ?_, ?_, map_plain_hiddenLines p texts.length⟩
  · rw [List.length_map, List.length_take, Nat.min_comm]
    rfl
  · refine List.forall₂_map_right_iff.mpr (List.forall₂_same.mpr fun text htext => ?_)
    have hclean := clean_of_mem_outputLines (List.mem_of_mem_take htext)
    exact isPreview_previewLineBy hmeasure p room hclean

/-- With seven lines, of which the second would be one column too wide. -/
theorem tool_lines_fit_past_a_wide_line :
    let p := Theme.graphite.palette
    let call : ToolCall :=
      { id := "x", title := "read the log", kind := none, status := .completed, input := none
        output := some "a\tb\r\n日本\x1b[1m語\n\n4\n5\n6\n7", rawOutput := none }
    (toolLines p 9 call).map Line.plain =
        ["  ◧ Read rea [done]", "    a\tb", "    日本", "    ", "    4", "    5", "    6",
          "    … 1 more lines"] ∧
      MeasuresMarks Text.columns ∧
      ∃ header previews more, toolLines p 9 call = header :: (previews ++ more) ∧
        widthBy Text.columns header.plain.toList ≤ 22 ∧
        previews.length = 6 ∧
        List.Forall₂ (IsPreview Text.columns 9) ((outputLines call).take 6) previews ∧
        more.map Line.plain = ["    … 1 more lines"] := by
  intro p call
  obtain ⟨⟨_, hmarks⟩, hfit⟩ := tool_lines_fit p 9 call
  have hlength : (outputLines call).length = 7 := by decide +kernel
  obtain ⟨header, previews, more, hlines, hheader, hpreviews, hshown, hmore⟩ :=
    hfit Text.columns hmarks
  rw [hlength] at hpreviews hmore
  exact ⟨by decide +kernel, hmarks, header, previews, more, hlines, hheader, hpreviews, hshown,
    hmore⟩

end AgentTranscript.Display
