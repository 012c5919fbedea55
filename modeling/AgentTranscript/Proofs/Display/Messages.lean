import AgentTranscript.Display.Render
import AgentTranscript.Proofs.Transcript.Closed

/-! Messages shown one after the other. What a message shows depends on no other message, so lists
of messages are shown apart with a blank line between them. What a log has closed is then shown once
and for all: whatever the log goes on to say is shown below. -/
namespace AgentTranscript.Display
variable {ms ns : List Message}

theorem render_nil (p : Palette) (width : Nat) : render p width [] = [] := rfl

def laterLines (p : Palette) (width : Nat) (m : Message) : List Line :=
  Line.blank :: messageLines p (max width 1) m

theorem flatMap_zipIdx_succ (p : Palette) (width : Nat) (ms : List Message) (place : Nat) :
    (ms.zipIdx (place + 1)).flatMap (fun (m, index) =>
      (if 0 < index then [Line.blank] else []) ++ messageLines p (max width 1) m) =
        ms.flatMap (laterLines p width) := by
  induction ms generalizing place with
  | nil => rfl
  | cons m ms ih =>
    rw [List.zipIdx_cons, List.flatMap_cons, List.flatMap_cons, ih]
    simp only [Nat.succ_pos, if_pos, laterLines, List.singleton_append]

theorem render_cons (p : Palette) (width : Nat) (m : Message) (ms : List Message) :
    render p width (m :: ms) =
      messageLines p (max width 1) m ++ ms.flatMap (laterLines p width) :=
  congrArg (messageLines p (max width 1) m ++ ·) (flatMap_zipIdx_succ p width ms 0)

theorem render_append (p : Palette) (width : Nat) (hms : ms ≠ []) (hns : ns ≠ []) :
    render p width (ms ++ ns) = render p width ms ++ [Line.blank] ++ render p width ns := by
  obtain ⟨m, ms, rfl⟩ := List.exists_cons_of_ne_nil hms
  obtain ⟨n, ns, rfl⟩ := List.exists_cons_of_ne_nil hns
  rw [List.cons_append, render_cons, render_cons, render_cons, List.flatMap_append,
    List.flatMap_cons, laterLines]
  simp only [List.append_assoc, List.cons_append, List.nil_append]

theorem render_prefix (p : Palette) (width : Nat) (h : ms <+: ns) :
    render p width ms <+: render p width ns := by
  obtain ⟨more, rfl⟩ := h
  by_cases hms : ms = []
  · rw [hms, render_nil]
    exact List.nil_prefix
  · by_cases hmore : more = []
    · exact ⟨[], by rw [hmore, List.append_nil, List.append_nil]⟩
    · rw [render_append p width hms hmore, List.append_assoc]
      exact List.prefix_append ..

/-- Two lists of messages, neither of them empty, are shown together as each of them is shown, with
one blank line between. So what the closed messages of a log are shown as comes first in what the
messages of each longer log are shown as. -/
theorem messages_are_shown_apart (p : Palette) (width : Nat) :
    (∀ ms ns : List Message, ms ≠ [] → ns ≠ [] →
        render p width (ms ++ ns) = render p width ms ++ [Line.blank] ++ render p width ns) ∧
      ∀ (options : Options) (log more : List UpdateRecord),
        render p width (Transcript.ofLog options.outputLimit log).closed <+:
          render p width (aggregate options (log ++ more)) := by
  refine ⟨fun ms ns => render_append p width, fun options log more => ?_⟩
  have hgrows := Transcript.closed_ofLog_prefix options.outputLimit (List.prefix_append log more)
  have hclosed := Transcript.closed_prefix_messages
    (Transcript.ofLog options.outputLimit (log ++ more)) options.closeFinalTurn
  exact render_prefix p width (hgrows.trans hclosed)

/-- A question and an answer without blocks, then a message that has no lines of its own. -/
theorem messages_are_shown_apart_from_one_without_lines :
    let p := Theme.graphite.palette
    let asked : Message := { role := .user, blocks := [.text "a\n\nb"] }
    let answered : Message := { role := .assistant, blocks := [] }
    let silent : Message := { role := .user, blocks := [] }
    ([asked, answered] ≠ [] ∧ [silent] ≠ []) ∧
      render p 80 [asked, answered, silent] =
        render p 80 [asked, answered] ++ [Line.blank] ++ render p 80 [silent] ∧
      (render p 80 [asked, answered, silent]).map Line.plain =
        ["> a", ">  ", "> b", "", "[agent]", ""] := by
  intro p asked answered silent
  have hfirst : [asked, answered] ≠ [] := List.cons_ne_nil _ _
  have hlast : [silent] ≠ [] := List.cons_ne_nil _ _
  have happart := (messages_are_shown_apart p 80).1 _ _ hfirst hlast
  exact ⟨⟨hfirst, hlast⟩, happart, by decide⟩

end AgentTranscript.Display
