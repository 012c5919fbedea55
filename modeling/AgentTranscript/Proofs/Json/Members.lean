import AgentTranscript.Json.Value

/-! Members of objects. An object made of fields keeps its members in order, and what it has under a
key is what the fields give for it. -/
namespace AgentTranscript.Json

/-- Members as an object keeps them, in the order of their keys and one for each. -/
def Ordered (members : List (String × Json)) : Prop := members.Pairwise (·.1 < ·.1)

def given? (key : String) : List (String × Option Json) → Option Json
  | [] => none
  | (k, v) :: rest => if k = key then v else given? key rest

variable {key tag : String} {value : Json} {members : List (String × Json)}

theorem getString?_insert_self (s : String) :
    (object (insert key (.string s) members)).getString? key = some s := by
  rw [getString?, get?, find?_insert_self]
  rfl

theorem getString?_insert_of_ne (hdiffers : tag ≠ key) (v : Json) :
    (object (insert key v members)).getString? tag = (object members).getString? tag := by
  rw [getString?, getString?, get?, get?, find?_insert_of_ne hdiffers]

theorem mem_insert {m : String × Json} (h : m ∈ insert key value members) :
    m = (key, value) ∨ m ∈ members := by
  induction members with
  | nil => exact .inl (List.mem_singleton.mp h)
  | cons first rest ih =>
    simp only [insert] at h
    split at h
    · exact (List.mem_cons.mp h).imp_right (List.mem_cons_of_mem _)
    · split at h
      · exact List.mem_cons.mp h
      · rcases List.mem_cons.mp h with rfl | hm
        · exact .inr List.mem_cons_self
        · exact (ih hm).imp_right (List.mem_cons_of_mem _)

theorem ordered_insert (h : Ordered members) : Ordered (insert key value members) := by
  induction members with
  | nil => exact List.pairwise_singleton _ _
  | cons first rest ih =>
    obtain ⟨habove, hordered⟩ := List.pairwise_cons.mp h
    simp only [insert]
    split
    · rename_i hsame
      exact List.pairwise_cons.mpr ⟨hsame ▸ habove, hordered⟩
    · rename_i hdiffers
      split
      · rename_i hbelow
        refine List.pairwise_cons.mpr ⟨fun m hm => ?_, h⟩
        rcases List.mem_cons.mp hm with rfl | hm
        · exact hbelow
        · exact String.lt_trans hbelow (habove m hm)
      · rename_i hnotBelow
        refine List.pairwise_cons.mpr ⟨fun m hm => ?_, ih hordered⟩
        rcases mem_insert hm with rfl | hm
        · exact String.not_le.mp fun hbelow =>
            hdiffers (String.le_antisymm hbelow (String.not_lt.mp hnotBelow))
        · exact habove m hm

theorem ordered_foldl_insert (given : List (String × Json)) (h : Ordered members) :
    Ordered (given.foldl (fun done m => insert m.1 m.2 done) members) := by
  induction given generalizing members with
  | nil => exact h
  | cons m rest ih => exact ih (ordered_insert h)

theorem mem_foldl_insert {m : String × Json} {given : List (String × Json)}
    (h : m ∈ given.foldl (fun done m => insert m.1 m.2 done) members) :
    m ∈ given ∨ m ∈ members := by
  induction given generalizing members with
  | nil => exact .inr h
  | cons first rest ih =>
    rcases ih h with hm | hm
    · exact .inl (List.mem_cons_of_mem _ hm)
    · rcases mem_insert hm with rfl | hm
      · exact .inl List.mem_cons_self
      · exact .inr hm

theorem given?_of_not_mem {fields : List (String × Option Json)}
    (h : key ∉ fields.map Prod.fst) : given? key fields = none := by
  induction fields with
  | nil => rfl
  | cons f rest ih =>
    have hdiffers : f.1 ≠ key := fun hsame => h (hsame ▸ List.mem_cons_self)
    rw [given?, if_neg hdiffers, ih fun hm => h (List.mem_cons_of_mem _ hm)]

theorem find?_foldl_insert {fields : List (String × Option Json)}
    (hnodup : (fields.map Prod.fst).Nodup) :
    find? key ((fields.filterMap fun f => f.2.map (f.1, ·)).foldl
      (fun done m => insert m.1 m.2 done) members) =
      (given? key fields).or (find? key members) := by
  induction fields generalizing members with
  | nil => rfl
  | cons f rest ih =>
    obtain ⟨k, v⟩ := f
    obtain ⟨hfresh, hdistinct⟩ := List.nodup_cons.mp hnodup
    by_cases hsame : k = key
    · subst hsame
      have habsent : given? k rest = none := given?_of_not_mem hfresh
      cases v <;> simp [given?, ih hdistinct, habsent, find?_insert_self]
    · cases v <;> simp [given?, ih hdistinct, hsame, find?_insert_of_ne (Ne.symm hsame)]

theorem ofFields_eq {fields : List (String × Option Json)} (hnodup : (fields.map Prod.fst).Nodup) :
    ∃ members, ofFields fields = .object members ∧ Ordered members ∧
      ∀ key, find? key members = given? key fields :=
  ⟨_, rfl, ordered_foldl_insert _ List.Pairwise.nil, fun key => by
    rw [find?_foldl_insert hnodup, find?, Option.or_none]⟩

theorem get?_ofFields {fields : List (String × Option Json)} (hnodup : (fields.map Prod.fst).Nodup)
    (key : String) : (ofFields fields).get? key = given? key fields := by
  obtain ⟨members, hmade, _, hgiven⟩ := ofFields_eq hnodup
  rw [hmade]
  exact hgiven key

theorem insert_of_forall_lt (h : ∀ m ∈ members, m.1 < key) :
    insert key value members = members ++ [(key, value)] := by
  induction members with
  | nil => rfl
  | cons first rest ih =>
    have habove : first.1 < key := h first List.mem_cons_self
    have hdiffers : key ≠ first.1 := fun hsame => String.lt_irrefl key (hsame ▸ habove)
    rw [insert, if_neg hdiffers, if_neg (String.lt_asymm habove),
      ih fun m hm => h m (List.mem_cons_of_mem _ hm), List.cons_append]

theorem ofMembers_of_ordered (h : Ordered members) : ofMembers members = .object members := by
  -- Each member comes behind all those that are there.
  suffices hwhole : ∀ done, Ordered (done ++ members) →
      members.foldl (fun done m => insert m.1 m.2 done) done = done ++ members from
    congrArg object (hwhole [] h)
  clear h
  induction members with
  | nil => exact fun done _ => (List.append_nil done).symm
  | cons m rest ih =>
    intro done hordered
    have hbelow : ∀ d ∈ done, d.1 < m.1 := fun d hd =>
      (List.pairwise_append.mp hordered).2.2 d hd m List.mem_cons_self
    rw [List.append_cons] at hordered ⊢
    rw [List.foldl_cons, insert_of_forall_lt hbelow, ih _ hordered]

theorem find?_of_mem (h : Ordered members) {m : String × Json} (hm : m ∈ members) :
    find? m.1 members = some m.2 := by
  induction members with
  | nil => exact absurd hm List.not_mem_nil
  | cons first rest ih =>
    obtain ⟨habove, hordered⟩ := List.pairwise_cons.mp h
    rcases List.mem_cons.mp hm with rfl | hm
    · simp [find?]
    · have hdiffers : first.1 ≠ m.1 := fun hsame => String.lt_irrefl m.1 (hsame ▸ habove m hm)
      simpa [find?, hdiffers] using ih hordered hm

theorem find?_filter_ne (members : List (String × Json)) :
    find? key (members.filter (·.1 != tag)) = if key = tag then none else find? key members := by
  induction members with
  | nil => simp [find?]
  | cons first rest ih =>
    by_cases htagged : first.1 = tag
    · by_cases hsame : key = tag
      · simpa [htagged, hsame] using ih
      · simpa [htagged, hsame, find?, Ne.symm hsame] using ih
    · by_cases hfound : first.1 = key
      · simp [find?, hfound, hfound ▸ htagged]
      · simpa [htagged, find?, hfound] using ih

end AgentTranscript.Json
