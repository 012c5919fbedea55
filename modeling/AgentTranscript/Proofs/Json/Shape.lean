import AgentTranscript.Json.Shape
import AgentTranscript.Proofs.Json.Members

/-! Records read back. What a shape reads from given values is put together from its fields, and an
object made of fields gives a shape just those values. -/
namespace AgentTranscript.Json

namespace Shape

/-- With these values given the shape finds no fault, and makes `a`. -/
structure Reads {α : Type} (shape : Shape α) (given : String → Option Json) (a : α) : Prop where
  faultless : ∀ field ∈ shape.fields, ∀ v, given field.name = some v → field.fault? v = none
  make_eq : shape.make given = .ok a

namespace Reads

variable {α β : Type} {given : String → Option Json} {name : String} {decode : Decoder α} {a : α}

theorem pure (a : α) : (Shape.pure a).Reads given a := ⟨nofun, rfl⟩

theorem required {v : Json} (hpresent : given name = some v) (hreads : decode v = .ok a) :
    (Shape.required name decode).Reads given a where
  faultless field hf u hu := by
    obtain rfl := List.mem_singleton.mp hf
    obtain rfl : v = u := Option.some.inj (hpresent.symm.trans hu)
    simp [faultOf, hreads]
  make_eq := by simp [Shape.required, hpresent, hreads]

theorem optional {encode : α → Json} {a : Option α} (hpresent : given name = a.map encode)
    (hreads : ∀ x, Decoder.optional decode (encode x) = .ok (some x)) :
    (Shape.optional name decode).Reads given a where
  faultless field hf u hu := by
    obtain rfl := List.mem_singleton.mp hf
    obtain ⟨x, -, rfl⟩ := Option.map_eq_some_iff.mp (hpresent.symm.trans hu)
    simp [faultOf, hreads]
  make_eq := by cases a <;> simp [Shape.optional, hpresent, hreads]

theorem and {f : Shape (α → β)} {shape : Shape α} {g : α → β} (hf : f.Reads given g)
    (ha : shape.Reads given a) : (f.and shape).Reads given (g a) where
  faultless field h := (List.mem_append.mp h).elim (hf.faultless field) (ha.faultless field)
  make_eq := by simp [Shape.and, hf.make_eq, ha.make_eq, Except.map]

end Reads

theorem decode_object {α : Type} {shape : Shape α} {members : List (String × Json)} {a : α}
    (hordered : Ordered members) (hreads : shape.Reads (find? · members) a) (standing : Standing)
    (title : String) : shape.decode standing title (.object members) = .ok a := by
  have hfaultless : memberFault? shape.fields members = none := by
    refine List.findSome?_eq_none_iff.mpr fun m hm => Option.bind_eq_none_iff.mpr fun field hf => ?_
    have hnamed : field.name = m.1 := by simpa using List.find?_some hf
    have hmem := List.mem_of_find?_eq_some hf
    exact hreads.faultless field hmem m.2 (hnamed ▸ find?_of_mem hordered hm)
  simp [decode, hfaultless, hreads.make_eq]

theorem decode_ofFields {α : Type} {shape : Shape α} {fields : List (String × Option Json)} {a : α}
    (hnodup : (fields.map Prod.fst).Nodup) (hreads : shape.Reads (given? · fields) a)
    (standing : Standing) (title : String) :
    shape.decode standing title (ofFields fields) = .ok a := by
  obtain ⟨members, heq, hordered, hfound⟩ := ofFields_eq hnodup
  rw [heq]
  exact decode_object hordered (by simpa only [hfound] using hreads) standing title

end Shape

namespace Decoder

theorem optional_of_ne_null {α : Type} {decode : Decoder α} {v : Json} {a : α}
    (hreads : decode v = .ok a) (hnull : v.isNull = false) : optional decode v = .ok (some a) := by
  cases v <;> simp_all [optional, Json.isNull, Except.map]

theorem list_map {α : Type} {decode : Decoder α} {encode : α → Json}
    (hreads : ∀ a, decode (encode a) = .ok a) (items : List α) :
    list decode (.array (items.map encode)) = .ok items := by
  change (items.map encode).mapM decode = .ok items
  induction items with
  | nil => rfl
  | cons a rest ih =>
    rw [List.map_cons, List.mapM_cons, hreads, ih]
    rfl

theorem tagged_ofFields {α β : Type} {title tag name : String} {kinds : List (String × Decoder α)}
    {shape : Shape β} {standing : Standing} {kindTitle : String} {f : β → α}
    {fields : List (String × Option Json)} {b : β}
    (hknown : kinds.lookup name = some fun v => (shape.decode standing kindTitle v).map f)
    (hnodup : (tag :: fields.map Prod.fst).Nodup) (hreads : shape.Reads (given? · fields) b) :
    tagged title tag kinds (ofFields ((tag, some (.string name)) :: fields)) = .ok (f b) := by
  obtain ⟨members, heq, hordered, hfound⟩ :=
    @ofFields_eq ((tag, some (.string name)) :: fields) hnodup
  have hnamed : find? tag members = some (.string name) := by simp [hfound, given?]
  have hothers : (find? · (members.filter (·.1 != tag))) = (given? · fields) := by
    funext key
    rw [find?_filter_ne, hfound]
    by_cases hsame : key = tag
    · rw [if_pos hsame, hsame, given?_of_not_mem (List.nodup_cons.mp hnodup).1]
    · rw [if_neg hsame, given?, if_neg (Ne.symm hsame)]
  have hrest := Shape.decode_object (hordered.filter _) (hothers ▸ hreads) standing kindTitle
  simp [heq, tagged, hnamed, tagged.kind, hknown, hrest, Except.map]

end Decoder
end AgentTranscript.Json
