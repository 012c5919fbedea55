import AgentTranscript.Proofs.Transcript.Blocks

/-! The user's messages in a transcript. They are those of the user's records, in order, each with
the texts of its content as one text, a line for each, and then the images. A record without an
image and without a text that is not empty shows nothing and only ends the turn; but several texts
make lines even if all of them are empty, and these are shown. -/
namespace AgentTranscript

namespace ContentItem

def texts (content : List ContentItem) : List String := content.filterMap text?

def images (content : List ContentItem) : List Block := content.filterMap imageBlock?

def HasText (content : List ContentItem) : Prop := ∃ s ∈ texts content, s ≠ ""

instance (content : List ContentItem) : Decidable (HasText content) :=
  inferInstanceAs (Decidable (∃ s ∈ texts content, s ≠ ""))

def Visible (content : List ContentItem) : Prop := HasText content ∨ images content ≠ []

instance (content : List ContentItem) : Decidable (Visible content) :=
  inferInstanceAs (Decidable (_ ∨ _))

/-- Whether there are several texts and all of them are empty. -/
def SeveralEmpty (content : List ContentItem) : Prop :=
  1 < (texts content).length ∧ ¬ HasText content

instance (content : List ContentItem) : Decidable (SeveralEmpty content) :=
  inferInstanceAs (Decidable (_ ∧ _))

theorem intercalate_eq_empty_iff (ss : List String) :
    "\n".intercalate ss = "" ↔ ss.length ≤ 1 ∧ ∀ s ∈ ss, s = "" := by
  cases ss with
  | nil => simp
  | cons s ss =>
    cases ss with
    | nil => simp
    | cons r ss => simp

theorem intercalate_replicate (n : Nat) :
    "\n".intercalate (List.replicate (n + 1) "") = String.ofList (List.replicate n '\n') := by
  induction n with
  | zero => rfl
  | succ n ih =>
    have hlines : List.replicate (n + 2) "" = "" :: "" :: List.replicate n "" := rfl
    rw [hlines, String.intercalate_cons_cons]
    change "" ++ "\n" ++ "\n".intercalate (List.replicate (n + 1) "") = _
    rw [ih, List.replicate_succ, String.ofList_cons]
    rfl

end ContentItem

def Update.userContent? : Update → Option (List ContentItem)
  | userMessage content => some content
  | _ => none

def userContents (log : List UpdateRecord) : List (List ContentItem) :=
  log.filterMap (·.update.userContent?)

/-- But for several empty texts, the texts put together are empty just if each of them is. -/
theorem ContentItem.isEmpty_intercalate_iff {content : List ContentItem}
    (h : ¬ SeveralEmpty content) :
    ("\n".intercalate (texts content)).isEmpty ↔ ¬ HasText content := by
  rw [String.isEmpty_iff, intercalate_eq_empty_iff]
  constructor
  · rintro ⟨_, hempty⟩ ⟨s, hs, hne⟩
    exact hne (hempty s hs)
  · intro hnone
    have hfew : (texts content).length ≤ 1 := by
      by_contra hmany
      exact h ⟨Nat.lt_of_not_le hmany, hnone⟩
    exact ⟨hfew, by simpa [HasText] using hnone⟩

namespace Message
open ContentItem

theorem userBlocks_of_not_severalEmpty {content : List ContentItem} (h : ¬ SeveralEmpty content) :
    userBlocks content =
      (if HasText content then [.text ("\n".intercalate (texts content))] else []) ++
        images content := by
  change (if ("\n".intercalate (texts content)).isEmpty then []
    else [.text ("\n".intercalate (texts content))]) ++ images content = _
  by_cases htext : HasText content
  · rw [if_pos htext, if_neg fun he => (isEmpty_intercalate_iff h).mp he htext]
  · rw [if_neg htext, if_pos ((isEmpty_intercalate_iff h).mpr htext)]

theorem userBlocks_of_severalEmpty {content : List ContentItem} (h : SeveralEmpty content) :
    userBlocks content =
      .text (String.ofList (List.replicate ((texts content).length - 1) '\n')) ::
        images content := by
  obtain ⟨hmany, hnone⟩ := h
  have hempty : ∀ s ∈ texts content, s = "" := by simpa [HasText] using hnone
  obtain ⟨n, hn⟩ : ∃ n, (texts content).length = n + 1 + 1 := Nat.exists_eq_add_of_le' hmany
  have hjoin : "\n".intercalate (texts content) = String.ofList (List.replicate (n + 1) '\n') := by
    rw [List.eq_replicate_iff.mpr ⟨hn, hempty⟩, intercalate_replicate]
  change (if ("\n".intercalate (texts content)).isEmpty then []
    else [.text ("\n".intercalate (texts content))]) ++ images content = _
  rw [hjoin, hn]
  simp [List.replicate_succ]

theorem ofUser_of_not_severalEmpty {content : List ContentItem} (h : ¬ SeveralEmpty content) :
    ofUser content =
      if Visible content then
        [{ role := .user
           blocks := (if HasText content then [.text ("\n".intercalate (texts content))] else []) ++
            images content }]
      else [] := by
  rw [ofUser, userBlocks_of_not_severalEmpty h]
  by_cases htext : HasText content
  · simp [Visible, htext]
  · cases himages : images content <;> simp [Visible, htext, himages]

theorem ofUser_of_severalEmpty {content : List ContentItem} (h : SeveralEmpty content) :
    ofUser content =
      [{ role := .user
         blocks := .text (String.ofList (List.replicate ((texts content).length - 1) '\n')) ::
          images content }] := by
  rw [ofUser, userBlocks_of_severalEmpty h]
  rfl

end Message

namespace TurnLog

theorem flatMap_shown_records (t : TurnLog) : t.records.flatMap (·.update.shown) = t.shown := by
  have hduring : t.during.flatMap (·.update.shown) = [] := by
    refine List.flatMap_eq_nil_iff.mpr fun r hr => ?_
    have hgoesOn := t.during_goesOn r hr
    cases hupdate : r.update with
    | userMessage content => exact absurd (by rw [hupdate]; rfl) hgoesOn
    | _ => rfl
  rw [records, List.flatMap_append, hduring, List.nil_append]
  rfl

theorem filter_user_messages (options : Options) (t : TurnLog) :
    ((t.answer options).toList ++ t.shown).filter (·.role = .user) = t.shown := by
  have hanswer : (t.answer options).toList.filter (·.role = .user) = [] := by
    refine List.filter_eq_nil_iff.mpr fun m hm => ?_
    simp [Turn.role_of_mem_message? (Option.mem_toList.mp hm)]
  have hshown : t.shown.filter (·.role = .user) = t.shown :=
    List.filter_eq_self.mpr fun m hm => decide_eq_true (mem_shown hm).1
  rw [List.filter_append, hanswer, hshown, List.nil_append]

end TurnLog

theorem flatMap_shown_eq (log : List UpdateRecord) :
    log.flatMap (·.update.shown) = (userContents log).flatMap Message.ofUser := by
  induction log with
  | nil => rfl
  | cons r log ih =>
    rw [List.flatMap_cons, ih, userContents, userContents, List.filterMap_cons]
    cases r.update <;> rfl

theorem filter_user_aggregate (options : Options) (log : List UpdateRecord) :
    (aggregate options log).filter (·.role = .user) =
      (userContents log).flatMap Message.ofUser := by
  calc
    (aggregate options log).filter (·.role = .user) = (turns log).flatMap TurnLog.shown := by
      rw [aggregate_eq_turns, List.filter_flatMap]
      exact List.flatMap_congr fun t _ => t.filter_user_messages options
    _ = ((turns log).flatMap TurnLog.records).flatMap (·.update.shown) := by
      rw [List.flatMap_assoc]
      exact List.flatMap_congr fun t _ => t.flatMap_shown_records.symm
    _ = (userContents log).flatMap Message.ofUser := by
      rw [flatMap_records_turns, flatMap_shown_eq]

theorem Transcript.ofLog_concat_userMessage (limit : Nat) (log : List UpdateRecord)
    {r : UpdateRecord} {content : List ContentItem} (hr : r.update = .userMessage content) :
    ofLog limit (log ++ [r]) =
      { closed := (ofLog limit log).closed ++ (ofLog limit log).turn.closed r.timestamp ++
          Message.ofUser content } := by
  obtain ⟨sessionId, time, update⟩ := r
  obtain rfl : update = .userMessage content := hr
  rw [ofLog_append]
  rfl

/-- The user's messages of a log are those of its records, in order. Unless it has several texts
and all are empty, content makes a message just if it has an image or a text that is not empty: the
texts as one, a line for each, if there is one that is not empty, and then the images. Several empty
texts make a message of the line feeds between them and the images. A record without a message still
ends the turn. -/
theorem user_messages_of_records (options : Options) :
    (∀ log, (aggregate options log).filter (·.role = .user) =
      (userContents log).flatMap Message.ofUser) ∧
      (∀ content, ¬ ContentItem.SeveralEmpty content →
        Message.ofUser content =
          if ContentItem.Visible content then
            [{ role := .user
               blocks := (if ContentItem.HasText content then
                  [.text ("\n".intercalate (ContentItem.texts content))] else []) ++
                ContentItem.images content }]
          else []) ∧
      (∀ content, ContentItem.SeveralEmpty content →
        Message.ofUser content =
          [{ role := .user
             blocks :=
              .text (String.ofList
                (List.replicate ((ContentItem.texts content).length - 1) '\n')) ::
                ContentItem.images content }]) ∧
      ∀ log content (r : UpdateRecord), r.update = .userMessage content →
        Message.ofUser content = [] →
          let before := Transcript.ofLog options.outputLimit log
          Transcript.ofLog options.outputLimit (log ++ [r]) =
            { closed := before.closed ++ before.turn.closed r.timestamp } := by
  refine ⟨filter_user_aggregate options, fun content => Message.ofUser_of_not_severalEmpty,
    fun content => Message.ofUser_of_severalEmpty, ?_⟩
  intro log content r hr hnothing before
  rw [Transcript.ofLog_concat_userMessage _ log hr, hnothing, List.append_nil]

/-- Texts and images in turn, of which one text is empty; two empty texts; and content that is not
shown, which ends a thought. -/
theorem user_messages_of_records_with_empty_texts :
    let record (u : Update) : UpdateRecord := ⟨none, none, u⟩
    let mixed : List ContentItem := [.text "a", .image "AA==" "image/png", .text "", .other "link"]
    let hollow : List ContentItem := [.text "", .text ""]
    let silent := record (.userMessage [.text "", .other "link"])
    let log := [record (.userMessage mixed), record (.userMessage hollow),
      record (.thoughtChunk (some (.text "b")))]
    (¬ ContentItem.SeveralEmpty mixed ∧ ContentItem.SeveralEmpty hollow ∧
      Message.ofUser [.text "", .other "link"] = []) ∧
      (aggregate {} (log ++ [silent])).filter (·.role = .user) =
        [{ role := .user, blocks := [.text "a\n", .image "AA==" "image/png"] },
          { role := .user, blocks := [.text "\n"] }] ∧
      let before := Transcript.ofLog 500 log
      Transcript.ofLog 500 (log ++ [silent]) =
        { closed := before.closed ++ before.turn.closed none } := by
  intro record mixed hollow silent log
  obtain ⟨hmessages, hcontent, hempty, hends⟩ := user_messages_of_records {}
  have hmixed : ¬ ContentItem.SeveralEmpty mixed := by decide
  have hhollow : ContentItem.SeveralEmpty hollow := by decide
  have hsilent : Message.ofUser [.text "", .other "link"] = [] := by decide
  refine ⟨⟨hmixed, hhollow, hsilent⟩, ?_, hends log _ silent rfl hsilent⟩
  rw [hmessages]
  have hcontents : userContents (log ++ [silent]) = [mixed, hollow, [.text "", .other "link"]] :=
    rfl
  have hshown : Message.ofUser mixed =
      [{ role := .user, blocks := [.text "a\n", .image "AA==" "image/png"] }] :=
    (hcontent mixed hmixed).trans (by decide)
  have hfeed : Message.ofUser hollow = [{ role := .user, blocks := [.text "\n"] }] :=
    hempty hollow hhollow
  rw [hcontents]
  simp [hshown, hfeed, hsilent]

/-- Two empty texts are not visible, but make a message. -/
theorem empty_texts_make_message :
    let log : List UpdateRecord := [⟨none, none, .userMessage [.text "", .text ""]⟩]
    (userContents log).filter ContentItem.Visible = [] ∧
      (aggregate {} log).filter (·.role = .user) =
        [{ role := .user, blocks := [.text "\n"] }] := by
  decide

end AgentTranscript
