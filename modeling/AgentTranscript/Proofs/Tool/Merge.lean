import AgentTranscript.Proofs.Text.Words
import AgentTranscript.Tool.Merge
import Mathlib.Data.List.Induction
import Mathlib.Data.List.Nodup

/-! Tool calls as the reports on them leave them: one for each id, in the order in which the ids
first come up, and each field as it was last given. Whether a report is the first on its call makes
no difference to how it is read. -/
namespace AgentTranscript

theorem eraseDups_concat {α : Type} [DecidableEq α] (xs : List α) (a : α) :
    (xs ++ [a]).eraseDups = if a ∈ xs then xs.eraseDups else xs.eraseDups ++ [a] := by
  rw [List.eraseDups_append]
  by_cases h : a ∈ xs <;> simp [List.removeAll, h, List.eraseDups_cons]

theorem nodup_eraseDups {α : Type} [DecidableEq α] (xs : List α) : xs.eraseDups.Nodup := by
  induction xs using List.reverseRecOn with
  | nil => simp
  | append_singleton xs a ih =>
    rw [eraseDups_concat]
    split
    · exact ih
    · rename_i h
      have hnew : a ∉ xs.eraseDups := by rwa [List.mem_eraseDups]
      simpa using List.Nodup.concat hnew ih

theorem map_ite_of_not_mem {α β : Type} [DecidableEq α] {a : α} {xs : List α} (h : a ∉ xs)
    (f g : α → β) : (xs.map fun x => if a = x then f x else g x) = xs.map g := by
  refine List.map_congr_left fun x hx => if_neg ?_
  rintro rfl
  exact h hx

theorem find?_beq {α : Type} [DecidableEq α] (a : α) (xs : List α) :
    xs.find? (· == a) = if a ∈ xs then some a else none := by
  induction xs with
  | nil => rfl
  | cons x xs ih =>
    by_cases h : x = a
    · simp [h]
    · have h' : ¬ a = x := fun he => h he.symm
      simp [h, h', ih]

theorem filterMap_concat {α β : Type} (f : α → Option β) (xs : List α) (a : α) :
    (xs ++ [a]).filterMap f = xs.filterMap f ++ (f a).toList := by
  rw [List.filterMap_append]
  cases h : f a <;> simp [h]

theorem getLast?_filterMap_concat {α β : Type} (f : α → Option β) (xs : List α) (a : α) :
    ((xs ++ [a]).filterMap f).getLast? = (f a).or (xs.filterMap f).getLast? := by
  rw [filterMap_concat, List.getLast?_append]
  cases f a <;> rfl

namespace ToolReport

/-- The title, unless it is white space alone. -/
def givenTitle? (r : ToolReport) : Option String :=
  r.title.filter fun title => title.toList.any fun c => !Text.isBlank c

/-- The kind, unless it is the type of a record that reports on tools. -/
def givenKind? (r : ToolReport) : Option String :=
  r.kind.filter fun kind => kind ≠ "tool_call" ∧ kind ≠ "tool_call_update"

theorem title?_eq (r : ToolReport) : r.title? = r.givenTitle? := by
  refine congrArg r.title.filter (funext fun title => ?_)
  rw [Bool.eq_iff_iff, Bool.not_eq_true', ← Bool.not_eq_true, Text.isBlankText_iff]
  simp

theorem kind?_eq (r : ToolReport) : r.kind? = r.givenKind? := by
  refine congrArg r.kind.filter (funext fun kind => ?_)
  rw [Bool.eq_iff_iff]
  simp [isToolRecord]

def input? (r : ToolReport) : Option String := r.rawInput.bind rawText?

def output? (r : ToolReport) : Option String := r.rawOutput.bind rawText?

def lastGiven {α : Type} (given? : ToolReport → Option α) (reports : List ToolReport) : Option α :=
  (reports.filterMap given?).getLast?

theorem lastGiven_concat {α : Type} (given? : ToolReport → Option α) (reports : List ToolReport)
    (r : ToolReport) :
    lastGiven given? (reports ++ [r]) = (given? r).or (lastGiven given? reports) :=
  getLast?_filterMap_concat given? reports r

theorem lastGiven_swap {α : Type} {given? : ToolReport → Option α} {r s : ToolReport}
    (h : given? r = none ∨ given? s = none) (before after : List ToolReport) :
    lastGiven given? (before ++ r :: s :: after) =
      lastGiven given? (before ++ s :: r :: after) := by
  unfold lastGiven
  rcases h with h | h <;> simp [List.filterMap_cons, h]

def callIds (reports : List ToolReport) : List String := (reports.map id).eraseDups

theorem nodup_callIds (reports : List ToolReport) : (callIds reports).Nodup :=
  nodup_eraseDups _

theorem callIds_concat (reports : List ToolReport) (r : ToolReport) :
    callIds (reports ++ [r]) =
      if r.id ∈ callIds reports then callIds reports else callIds reports ++ [r.id] := by
  simp only [callIds, List.map_append, List.map_singleton, eraseDups_concat, List.mem_eraseDups]

def reportsOn (id : String) (reports : List ToolReport) : List ToolReport :=
  reports.filter (·.id == id)

theorem reportsOn_concat (id : String) (reports : List ToolReport) (r : ToolReport) :
    reportsOn id (reports ++ [r]) =
      if r.id = id then reportsOn id reports ++ [r] else reportsOn id reports := by
  by_cases h : r.id = id <;> simp [reportsOn, h]

theorem reportsOn_eq_nil_iff (id : String) (reports : List ToolReport) :
    reportsOn id reports = [] ↔ id ∉ callIds reports := by
  simp [reportsOn, callIds]

end ToolReport

namespace ToolCall
open ToolReport

/-- The call with this id after these reports on it, each field as it was last given. -/
def ofReports (limit : Nat) (id : String) (own : List ToolReport) : ToolCall :=
  { id
    title := (lastGiven givenTitle? own).getD "Tool Call"
    kind := lastGiven givenKind? own
    status := (lastGiven ToolReport.status own).getD .pending
    input := lastGiven input? own
    output := (lastGiven output? own).map (Text.cut limit)
    rawOutput := lastGiven output? own }

theorem ofReports_nil (limit : Nat) (id : String) : ofReports limit id [] = unreported id := rfl

theorem ofReports_concat (limit : Nat) (id : String) (own : List ToolReport) (r : ToolReport) :
    ofReports limit id (own ++ [r]) = (ofReports limit id own).merge limit r := by
  simp only [ofReports, merge, lastGiven_concat, title?_eq, kind?_eq, input?, output?,
    Option.getD_or, Option.map_or]

/-! A report with nothing in it for a field leaves what the call shows. -/

theorem input_merge {r : ToolReport} (h : r.input? = none) (limit : Nat) (call : ToolCall) :
    (call.merge limit r).input = call.input :=
  congrArg (Option.or · call.input) h

theorem rawOutput_merge {r : ToolReport} (h : r.output? = none) (limit : Nat) (call : ToolCall) :
    (call.merge limit r).rawOutput = call.rawOutput :=
  congrArg (Option.or · call.rawOutput) h

theorem output_merge {r : ToolReport} (h : r.output? = none) (limit : Nat) (call : ToolCall) :
    (call.merge limit r).output = call.output :=
  congrArg (fun raw => (Option.map (Text.cut limit) raw).or call.output) h

def ofAllReports (limit : Nat) (reports : List ToolReport) : List ToolCall :=
  (callIds reports).map fun id => ofReports limit id (reportsOn id reports)

theorem ofAllReports_eq_nil_iff (limit : Nat) (reports : List ToolReport) :
    ofAllReports limit reports = [] ↔ reports = [] := by
  cases reports with
  | nil => exact iff_of_true rfl rfl
  | cons r reports => simp [ofAllReports, callIds, List.eraseDups_cons]

theorem ids_ofAllReports (limit : Nat) (reports : List ToolReport) :
    (ofAllReports limit reports).map ToolCall.id = callIds reports := by
  rw [ofAllReports, List.map_map]
  exact List.map_id _

/-- A report goes to the call with its id, and to a new one at the end if there is none. -/
theorem report_map {ids : List String} (hids : ids.Nodup) (limit : Nat) (r : ToolReport)
    (call : String → ToolCall) (hcall : ∀ id, (call id).id = id) :
    report limit r (ids.map call) =
      if r.id ∈ ids then
        ids.map fun id => if r.id = id then (call id).merge limit r else call id
      else ids.map call ++ [new limit r] := by
  induction ids with
  | nil => rfl
  | cons id ids ih =>
    obtain ⟨hnew, hrest⟩ := List.nodup_cons.mp hids
    rw [List.map_cons, report, hcall]
    by_cases h : id = r.id
    · subst h
      simp [map_ite_of_not_mem hnew]
    · have h' : ¬ r.id = id := fun he => h he.symm
      rw [if_neg h, ih hrest]
      by_cases hmem : r.id ∈ ids <;> simp [hmem, h']

theorem report_ofAllReports (limit : Nat) (reports : List ToolReport) (r : ToolReport) :
    report limit r (ofAllReports limit reports) = ofAllReports limit (reports ++ [r]) := by
  have hcall (id : String) : ofReports limit id (reportsOn id (reports ++ [r])) =
      if r.id = id then (ofReports limit id (reportsOn id reports)).merge limit r
      else ofReports limit id (reportsOn id reports) := by
    rw [reportsOn_concat]
    split
    · exact ofReports_concat limit id _ r
    · rfl
  unfold ofAllReports
  rw [report_map (nodup_callIds reports) limit r _ fun id => rfl, callIds_concat]
  simp only [hcall]
  split
  · rfl
  · rename_i hnew
    have hnone : reportsOn r.id reports = [] := (reportsOn_eq_nil_iff r.id reports).mpr hnew
    rw [List.map_append, map_ite_of_not_mem hnew, List.map_singleton, if_pos rfl, hnone,
      ofReports_nil, new_eq_merge]

theorem find?_ofAllReports (limit : Nat) (id : String) (reports : List ToolReport) :
    (ofAllReports limit reports).find? (·.id == id) =
      if reportsOn id reports = [] then none
      else some (ofReports limit id (reportsOn id reports)) := by
  rw [ofAllReports, List.find?_map]
  change ((callIds reports).find? (· == id)).map _ = _
  rw [find?_beq]
  by_cases h : id ∈ callIds reports <;> simp [reportsOn_eq_nil_iff, h]

end ToolCall
end AgentTranscript
