import AgentTranscript.Proofs.Json.Members
import AgentTranscript.Proofs.Json.Scalars

/-! Written values are read back, in whatever layout they are written. -/
namespace AgentTranscript.Json

/-- Values that come back as they were: integers are of 64 bits, the members of objects are in
order, and at most `depth` lists and objects are open inside one another. -/
inductive Plain : Nat → Json → Prop where
  | null {depth : Nat} : Plain depth .null
  | bool {depth : Nat} (b : Bool) : Plain depth (.bool b)
  | string {depth : Nat} (s : String) : Plain depth (.string s)
  | integer {depth : Nat} {n : Int} (hlower : Int64.minValue.toInt ≤ n)
    (hupper : n < UInt64.size) : Plain depth (ofInt n)
  | array {depth : Nat} {items : List Json} (hplain : ∀ v ∈ items, Plain depth v) :
    Plain (depth + 1) (.array items)
  | object {depth : Nat} {members : List (String × Json)} (hordered : Ordered members)
    (hplain : ∀ m ∈ members, Plain depth m.2) : Plain (depth + 1) (.object members)

theorem plain_ofFields {depth : Nat} {fields : List (String × Option Json)}
    (h : ∀ f ∈ fields, ∀ v ∈ f.2, Plain depth v) : Plain (depth + 1) (ofFields fields) := by
  refine .object (ordered_foldl_insert _ List.Pairwise.nil) fun m hm => ?_
  have hgiven := (mem_foldl_insert hm).resolve_right List.not_mem_nil
  obtain ⟨f, hf, heq⟩ := List.mem_filterMap.mp hgiven
  obtain ⟨v, hv, rfl⟩ := Option.map_eq_some_iff.mp heq
  exact h f hf v hv

theorem skipSpace_newLine (layout : Layout) (s : List Char) :
    skipSpace (layout.newLine ++ s) = skipSpace s := by
  refine List.dropWhile_append_of_pos fun c hc => ?_
  unfold Layout.newLine at hc
  split at hc
  · exact absurd hc List.not_mem_nil
  · rcases List.mem_cons.mp hc with rfl | hc
    · rfl
    · rw [List.eq_of_mem_replicate hc]
      rfl

/-- Written in this layout, the value comes back where `depth` lists and objects may be opened. -/
def ReadsBack (depth : Nat) (layout : Layout) (v : Json) : Prop :=
  ∀ rest, EndsNumber rest →
    ∃ c tail, v.write layout ++ rest = c :: tail ∧ Begins depth c tail v rest

theorem ReadsBack.gives {depth : Nat} {layout : Layout} {v : Json} {s rest : List Char}
    (h : ReadsBack depth layout v) (hends : EndsNumber rest)
    (hs : skipSpace s = skipSpace (v.write layout ++ rest)) : Gives (readValue depth s) v rest := by
  obtain ⟨c, tail, heq, hbegins⟩ := h rest hends
  rw [heq, skipSpace_cons hbegins.first.1] at hs
  exact Gives.readValue hs hbegins

theorem ReadsBack.next {depth : Nat} {layout : Layout} {v : Json} {rest : List Char}
    (h : ReadsBack depth layout v) (hends : EndsNumber rest) :
    ∃ c tail, skipSpace (layout.newLine ++ (v.write layout ++ rest)) = c :: tail ∧ c ≠ ']' := by
  obtain ⟨c, tail, heq, hbegins⟩ := h rest hends
  refine ⟨c, tail, ?_, hbegins.first.2⟩
  rw [skipSpace_newLine, heq, skipSpace_cons hbegins.first.1]

def behind (layout : Layout) (after : Char) (parts : List (List Char)) (rest : List Char) :
    List Char :=
  parts.flatMap (fun p => ',' :: (layout.inner.newLine ++ p)) ++ (layout.newLine ++ after :: rest)

theorem enclose_cons (layout : Layout) (before after : Char) (part : List Char)
    (parts : List (List Char)) (rest : List Char) :
    enclose layout before after (part :: parts) ++ rest =
      before :: (layout.inner.newLine ++ (part ++ behind layout after parts rest)) := by
  simp [enclose, behind]

theorem skipSpace_behind_cons (layout : Layout) (after : Char) (part : List Char)
    (parts : List (List Char)) (rest : List Char) :
    skipSpace (behind layout after (part :: parts) rest) =
      ',' :: (layout.inner.newLine ++ (part ++ behind layout after parts rest)) := by
  simp [behind, skipSpace_cons (show isSpace ',' = false from rfl)]

theorem skipSpace_behind_nil {after : Char} (h : isSpace after = false) (layout : Layout)
    (rest : List Char) : skipSpace (behind layout after [] rest) = after :: rest := by
  rw [behind, List.flatMap_nil, List.nil_append, skipSpace_newLine, skipSpace_cons h]

theorem endsNumber_behind {after : Char} {rest : List Char} (h : EndsNumber (after :: rest))
    (layout : Layout) (parts : List (List Char)) :
    EndsNumber (behind layout after parts rest) := by
  cases parts with
  | nil =>
    cases e : layout.indent with
    | none => simpa [behind, Layout.newLine, e] using h
    | some n => simp [behind, Layout.newLine, e, EndsNumber]
  | cons part parts => simp [behind, EndsNumber]

variable {depth : Nat} {layout : Layout} {rest : List Char}

theorem readItems_write {v : Json} {items : List Json} {s : List Char}
    (h : ∀ u ∈ v :: items, ReadsBack depth layout.inner u)
    (hs : skipSpace s =
      skipSpace (v.write layout.inner ++ behind layout ']' (writeItems layout.inner items) rest)) :
    Gives (readItems (readValue depth) s) (v :: items) rest := by
  have hends := @endsNumber_behind ']' rest (by simp [EndsNumber]) layout
  induction items generalizing v s with
  | nil =>
    exact readItems_last ((h v List.mem_cons_self).gives (hends _) hs)
      (@skipSpace_behind_nil ']' rfl layout rest)
  | cons w items ih =>
    have hback : ReadsBack depth layout.inner w := h w (by simp)
    obtain ⟨c, tail, hnext, hnotClose⟩ := hback.next (hends (writeItems layout.inner items))
    exact readItems_more ((h v List.mem_cons_self).gives (hends _) hs)
      (skipSpace_behind_cons ..) hnext hnotClose
      (ih (fun u hu => h u (List.mem_cons_of_mem _ hu)) (skipSpace_newLine _ _))

theorem readsBack_array {items : List Json} (h : ∀ v ∈ items, ReadsBack depth layout.inner v) :
    ReadsBack (depth + 1) layout (.array items) := by
  intro rest _
  cases items with
  | nil => exact ⟨'[', ']' :: rest, rfl, .array (readArray_empty (skipSpace_cons rfl rest))⟩
  | cons v items =>
    have hends := @endsNumber_behind ']' rest (by simp [EndsNumber]) layout
      (writeItems layout.inner items)
    obtain ⟨c, tail, hnext, hnotClose⟩ := (h v List.mem_cons_self).next hends
    exact ⟨'[', _, enclose_cons .., .array
      (readArray_items hnext hnotClose (readItems_write h (skipSpace_newLine _ _)))⟩

theorem readMember_write {m : String × Json} (h : ReadsBack depth layout m.2)
    (hends : EndsNumber rest) :
    Gives (readMember (readValue depth) (quote m.1 ++ layout.colon ++ m.2.write layout ++ rest)) m
      rest := by
  have hcolon : ∃ behind, skipSpace (layout.colon ++ (m.2.write layout ++ rest)) = ':' :: behind ∧
      skipSpace behind = skipSpace (m.2.write layout ++ rest) := by
    unfold Layout.colon
    split
    · exact ⟨_, skipSpace_cons rfl _, rfl⟩
    · exact ⟨_, skipSpace_cons rfl _, rfl⟩
  obtain ⟨behind, hcolon, hspace⟩ := hcolon
  have hwritten : quote m.1 ++ layout.colon ++ m.2.write layout ++ rest =
      '"' :: (m.1.toList.flatMap escape ++
        '"' :: (layout.colon ++ (m.2.write layout ++ rest))) := by
    simp [quote]
  rw [hwritten]
  exact readMember_of_gives (readString_escape m.1 _) hcolon (h.gives hends hspace)

theorem readMembers_write {m : String × Json} {members : List (String × Json)}
    (h : ∀ u ∈ m :: members, ReadsBack depth layout.inner u.2) :
    Gives (readMembers (readValue depth)
      (quote m.1 ++ layout.inner.colon ++ m.2.write layout.inner ++
        behind layout '\x7d' (writeMembers layout.inner members) rest)) (m :: members) rest := by
  have hends := @endsNumber_behind '\x7d' rest (by simp [EndsNumber]) layout
  induction members generalizing m with
  | nil =>
    exact readMembers_last (readMember_write (h m List.mem_cons_self) (hends _))
      (@skipSpace_behind_nil '\x7d' rfl layout rest)
  | cons n members ih =>
    exact readMembers_more (readMember_write (h m List.mem_cons_self) (hends _))
      (skipSpace_behind_cons ..) ((skipSpace_newLine _ _).trans (skipSpace_cons rfl _)) (by decide)
      (ih fun u hu => h u (List.mem_cons_of_mem _ hu))

theorem readsBack_object {members : List (String × Json)} (hordered : Ordered members)
    (h : ∀ m ∈ members, ReadsBack depth layout.inner m.2) :
    ReadsBack (depth + 1) layout (.object members) := by
  intro rest _
  cases members with
  | nil =>
    exact ⟨'\x7b', '\x7d' :: rest, rfl, .object (readObject_empty (skipSpace_cons rfl rest))⟩
  | cons m members =>
    refine ⟨'\x7b', _, enclose_cons .., .object ?_⟩
    rw [← ofMembers_of_ordered hordered]
    exact readObject_members ((skipSpace_newLine _ _).trans (skipSpace_cons rfl _)) (by decide)
      (readMembers_write h)

theorem readsBack_ofInt {n : Int} (hlower : Int64.minValue.toInt ≤ n) (hupper : n < UInt64.size) :
    ReadsBack depth layout (ofInt n) := by
  intro rest hends
  cases n with
  | ofNat n =>
    have hfits : n < UInt64.size := Int.ofNat_lt.mp hupper
    have hread := readNumber_toDigits hfits hends
    obtain ⟨c, digits, heq⟩ : ∃ c digits, Nat.toDigits 10 n = c :: digits :=
      List.exists_cons_of_length_pos Nat.length_toDigits_pos
    have hdigit : c.isDigit := by
      have hmem : c ∈ Nat.toDigits 10 n := heq ▸ List.mem_cons_self
      exact Nat.isDigit_of_mem_toDigits (by decide) (by decide) hmem
    rw [heq] at hread
    exact ⟨c, digits ++ rest, congrArg (· ++ rest) ((JsonNumber.text_ofNat n).trans heq),
      .digit hdigit hread⟩
  | negSucc n =>
    have hfits : n + 1 ≤ twoTo 63 := by
      rw [Int64.toInt_minValue] at hlower
      change n + 1 ≤ 2 ^ 63
      omega
    exact ⟨'-', Nat.toDigits 10 (n + 1) ++ rest, congrArg (· ++ rest) (JsonNumber.text_negSucc n),
      .negative (readNumber_toDigits_negative (Nat.succ_pos n) hfits hends)⟩

theorem readsBack_of_plain {v : Json} (hplain : Plain depth v) (layout : Layout) :
    ReadsBack depth layout v := by
  -- For all layouts at once, since what is inside a value is written further in.
  induction hplain generalizing layout with
  | null => exact fun rest _ => ⟨'n', _, rfl, .null⟩
  | bool b =>
    cases b
    · exact fun rest _ => ⟨'f', _, rfl, .no⟩
    · exact fun rest _ => ⟨'t', _, rfl, .yes⟩
  | string s =>
    exact fun rest _ => ⟨'"', _, by simp [write, quote], .string (readString_escape s rest)⟩
  | integer hlower hupper => exact readsBack_ofInt hlower hupper
  | array _ ih => exact readsBack_array fun v hv => ih v hv layout.inner
  | object hordered _ ih => exact readsBack_object hordered fun m hm => ih m hm layout.inner

/-- A written text holds the value again, whatever the layout. -/
theorem parse_write {v : Json} (hplain : Plain maxDepth v) (layout : Layout) :
    parse (String.ofList (v.write layout)) = .ok v := by
  have hends : EndsNumber [] := fun c hc => nomatch hc
  have hwhole : skipSpace (String.ofList (v.write layout)).toList =
      skipSpace (v.write layout ++ []) := by
    rw [String.toList_ofList, List.append_nil]
  obtain ⟨_, heq⟩ := (readsBack_of_plain hplain layout).gives hends hwhole
  unfold parse
  rw [heq]
  rfl

end AgentTranscript.Json
