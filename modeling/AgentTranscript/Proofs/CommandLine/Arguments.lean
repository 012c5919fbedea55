import AgentTranscript.CommandLine.Arguments
import Mathlib.Data.List.Chain

/-! Which arguments the command takes. They are read word by word, but the word behind one that asks
for a session is that session. The other words are flags, or operands, which name the input: a file
or standard input. Of two inputs that are named one after the other, one has to be standard input.
What is then to be done is told by the flags that are there, the last session and the last input. -/
namespace AgentTranscript.CommandLine

/-- What is read at once: a word, or a session and the word that asks for it. -/
inductive Item where
  | word (argument : String)
  | session (id : String)
  | sessionWithoutValue
  deriving DecidableEq

def Item.word? : Item → Option String
  | word argument => some argument
  | _ => none

def Item.session? : Item → Option String
  | session id => some id
  | _ => none

def asksSession (argument : String) : Bool := argument == "--session" || argument == "-s"

def items : List String → List Item
  | [] => []
  | argument :: rest =>
    if asksSession argument then
      match rest with
      | [] => [.sessionWithoutValue]
      | id :: rest => .session id :: items rest
    else .word argument :: items rest

def words (arguments : List String) : List String := (items arguments).filterMap Item.word?

def sessions (arguments : List String) : List String := (items arguments).filterMap Item.session?

def flags : List String := ["--json", "--strict", "--live", "--list-sessions"]

/-- Words that are answered at once, whatever stands behind them. -/
def questions : List String := ["--version", "-v", "--help", "-h"]

def isOperand (argument : String) : Bool := argument == "-" || !startsWithDash argument

def operands (arguments : List String) : List String := (words arguments).filter isOperand

def file? (operand : String) : Option String := if operand = "-" then none else some operand

/-- The inputs named, in order: files, and standard input where there is none. -/
def inputs (arguments : List String) : List (Option String) := (operands arguments).map file?

/-- Whether one of two inputs is standard input. -/
def NotBothFiles (p q : Option String) : Prop := p = none ∨ q = none

instance : DecidableRel NotBothFiles := fun p q => inferInstanceAs (Decidable (p = none ∨ q = none))

/-- Whether the command runs with these arguments. -/
structure IsAccepted (arguments : List String) : Prop where
  known : ∀ a ∈ words arguments, a ∈ flags ∨ isOperand a
  sessions : .sessionWithoutValue ∉ items arguments
  inputs : (inputs arguments).IsChain NotBothFiles

instance (arguments : List String) : Decidable (IsAccepted arguments) :=
  decidable_of_iff
    ((∀ a ∈ words arguments, a ∈ flags ∨ isOperand a) ∧
      .sessionWithoutValue ∉ items arguments ∧ (inputs arguments).IsChain NotBothFiles)
    ⟨fun ⟨hknown, hsessions, hinputs⟩ => ⟨hknown, hsessions, hinputs⟩,
      fun ⟨hknown, hsessions, hinputs⟩ => ⟨hknown, hsessions, hinputs⟩⟩

def told (arguments : List String) : Arguments where
  path := (inputs arguments).getLastD none
  session := (sessions arguments).getLast?
  json := "--json" ∈ words arguments
  strict := "--strict" ∈ words arguments
  live := "--live" ∈ words arguments
  listSessions := "--list-sessions" ∈ words arguments

/-! ### Arguments item by item -/

section
variable {a : String}

theorem asksSession_iff : asksSession a ↔ a = "--session" ∨ a = "-s" := by
  simp [asksSession]

theorem items_word (h : ¬ asksSession a) (rest : List String) :
    items (a :: rest) = .word a :: items rest := by
  rw [items.eq_def]
  exact if_neg h

theorem items_session (h : asksSession a) (id : String) (rest : List String) :
    items (a :: id :: rest) = .session id :: items rest := by
  rw [items, if_pos h]

theorem items_last (h : asksSession a) : items [a] = [.sessionWithoutValue] := by
  rw [items, if_pos h]

theorem words_word (h : ¬ asksSession a) (rest : List String) :
    words (a :: rest) = a :: words rest := by
  rw [words, items_word h]
  rfl

theorem words_session (h : asksSession a) (id : String) (rest : List String) :
    words (a :: id :: rest) = words rest := by
  rw [words, items_session h]
  rfl

theorem sessions_word (h : ¬ asksSession a) (rest : List String) :
    sessions (a :: rest) = sessions rest := by
  rw [sessions, items_word h]
  rfl

theorem sessions_session (h : asksSession a) (id : String) (rest : List String) :
    sessions (a :: id :: rest) = id :: sessions rest := by
  rw [sessions, items_session h]
  rfl

theorem inputs_word (h : ¬ asksSession a) (rest : List String) :
    inputs (a :: rest) = if isOperand a then file? a :: inputs rest else inputs rest := by
  rw [inputs, operands, words_word h, List.filter_cons]
  split <;> rfl

theorem inputs_session (h : asksSession a) (id : String) (rest : List String) :
    inputs (a :: id :: rest) = inputs rest := by
  rw [inputs, operands, words_session h]
  rfl

end

namespace Arguments
variable {args : Arguments} {a : String}

/-! ### What one word does -/

def take (args : Arguments) (a : String) : Arguments where
  path := if isOperand a then file? a else args.path
  session := args.session
  json := a = "--json" || args.json
  strict := a = "--strict" || args.strict
  live := a = "--live" || args.live
  listSessions := a = "--list-sessions" || args.listSessions

structure Fits (args : Arguments) (a : String) : Prop where
  known : a ∈ flags ∨ isOperand a
  input : isOperand a → NotBothFiles args.path (file? a)

def reserved : List String := flags ++ questions ++ ["--session", "-s", "-"]

theorem not_mem_reserved (h : isOperand a) (ha : a ≠ "-") : a ∉ reserved := by
  have hinput : ∀ b ∈ reserved, isOperand b → b = "-" := by decide
  exact fun hmem => ha (hinput a hmem h)

theorem take_of_not_mem_reserved (args : Arguments) (h : a ∉ reserved) :
    args.take a = { args with path := if isOperand a then file? a else args.path } := by
  have hflag : ∀ f ∈ flags, a ≠ f := by
    rintro f hf rfl
    exact h (List.mem_append_left _ (List.mem_append_left _ hf))
  simp only [flags, List.forall_mem_cons] at hflag
  simp [take, hflag]

theorem parseFrom_of_not_mem_reserved (args : Arguments) (h : a ∉ reserved)
    (rest : List String) :
    parseFrom args (a :: rest) =
      if startsWithDash a then .error (.unknown a)
      else if args.path.isSome then .error .secondLog
      else parseFrom { args with path := some a } rest := by
  rw [parseFrom] <;> rintro rfl <;> exact h (by decide)

theorem parseFrom_of_fits (h : args.Fits a) (rest : List String) :
    parseFrom args (a :: rest) = parseFrom (args.take a) rest := by
  obtain hflag | hoperand := h.known
  · simp only [flags, List.mem_cons, List.not_mem_nil, or_false] at hflag
    obtain rfl | rfl | rfl | rfl := hflag <;> rfl
  · by_cases ha : a = "-"
    · subst ha
      rfl
    · have hdash : ¬ startsWithDash a := by simpa [isOperand, ha] using hoperand
      have hfile : file? a = some a := if_neg ha
      have hpath : args.path = none := by simpa [NotBothFiles, hfile] using h.input hoperand
      have hreserved := not_mem_reserved hoperand ha
      rw [parseFrom_of_not_mem_reserved args hreserved, if_neg hdash, hpath,
        take_of_not_mem_reserved args hreserved, if_pos hoperand, hfile]
      rfl

theorem not_mem_reserved_of_not_fits (h : ¬ args.Fits a) (hsession : ¬ asksSession a)
    (hquestion : a ∉ questions) : a ∉ reserved := by
  have hflag : a ∉ flags := by
    have hnone : ∀ b ∈ flags, ¬ isOperand b := by decide
    exact fun hmem => h ⟨.inl hmem, fun hoperand => absurd hoperand (hnone a hmem)⟩
  have hinput : a ≠ "-" := by
    rintro rfl
    exact h ⟨.inr rfl, fun _ => .inr rfl⟩
  simpa [reserved, hflag, hquestion, hinput, asksSession_iff] using hsession

theorem parseFrom_of_not_fits (h : ¬ args.Fits a) (hsession : ¬ asksSession a)
    (rest : List String) :
    (∃ e, parseFrom args (a :: rest) = .error e) ∨
      a ∈ questions ∧
        (parseFrom args (a :: rest) = .ok .version ∨ parseFrom args (a :: rest) = .ok .help) := by
  by_cases hquestion : a ∈ questions
  · right
    refine ⟨hquestion, ?_⟩
    simp only [questions, List.mem_cons, List.not_mem_nil, or_false] at hquestion
    obtain rfl | rfl | rfl | rfl := hquestion
    · exact .inl rfl
    · exact .inl rfl
    · exact .inr rfl
    · exact .inr rfl
  · left
    rw [parseFrom_of_not_mem_reserved args (not_mem_reserved_of_not_fits h hsession hquestion)]
    by_cases hdash : startsWithDash a
    · exact ⟨.unknown a, if_pos hdash⟩
    · have hoperand : isOperand a := by simp [isOperand, hdash]
      have hpath : args.path.isSome := by
        by_contra hnone
        exact h ⟨.inr hoperand, fun _ => .inl (Option.not_isSome_iff_eq_none.mp hnone)⟩
      exact ⟨.secondLog, by rw [if_neg hdash, if_pos hpath]⟩

theorem parseFrom_session (h : asksSession a) (args : Arguments) (id : String)
    (rest : List String) :
    parseFrom args (a :: id :: rest) = parseFrom { args with session := some id } rest := by
  obtain rfl | rfl := asksSession_iff.mp h <;> rfl

theorem parseFrom_last (h : asksSession a) (args : Arguments) :
    parseFrom args [a] = .error .sessionWithoutValue := by
  obtain rfl | rfl := asksSession_iff.mp h <;> rfl

/-! ### What all of them do -/

structure Accepts (args : Arguments) (arguments : List String) : Prop where
  known : ∀ a ∈ words arguments, a ∈ flags ∨ isOperand a
  sessions : .sessionWithoutValue ∉ items arguments
  inputs : (args.path :: inputs arguments).IsChain NotBothFiles

def add (args : Arguments) (arguments : List String) : Arguments where
  path := (inputs arguments).getLastD args.path
  session := (sessions arguments).getLast?.or args.session
  json := "--json" ∈ words arguments || args.json
  strict := "--strict" ∈ words arguments || args.strict
  live := "--live" ∈ words arguments || args.live
  listSessions := "--list-sessions" ∈ words arguments || args.listSessions

theorem accepts_nil (args : Arguments) : args.Accepts [] :=
  ⟨List.forall_mem_nil _, List.not_mem_nil, .singleton _⟩

theorem add_nil (args : Arguments) : args.add [] = args := rfl

theorem isChain_inputs_word_iff (h : ¬ asksSession a) (args : Arguments) (rest : List String) :
    (args.path :: inputs (a :: rest)).IsChain NotBothFiles ↔
      (isOperand a → NotBothFiles args.path (file? a)) ∧
        ((args.take a).path :: inputs rest).IsChain NotBothFiles := by
  rw [inputs_word h, take]
  by_cases hoperand : isOperand a
  · rw [if_pos hoperand, if_pos hoperand, List.isChain_cons_cons, forall_prop_of_true hoperand]
  · rw [if_neg hoperand, if_neg hoperand, forall_prop_of_false hoperand, true_and]

theorem accepts_word_iff (h : ¬ asksSession a) (args : Arguments) (rest : List String) :
    args.Accepts (a :: rest) ↔ args.Fits a ∧ (args.take a).Accepts rest := by
  have hsessions : .sessionWithoutValue ∉ items (a :: rest) ↔
      .sessionWithoutValue ∉ items rest := by
    simp [items_word h]
  constructor
  · intro haccepts
    have hknown := haccepts.known
    rw [words_word h, List.forall_mem_cons] at hknown
    obtain ⟨hinput, hinputs⟩ := (isChain_inputs_word_iff h args rest).mp haccepts.inputs
    exact ⟨⟨hknown.1, hinput⟩, ⟨hknown.2, hsessions.mp haccepts.sessions, hinputs⟩⟩
  · rintro ⟨hfits, haccepts⟩
    refine ⟨?_, hsessions.mpr haccepts.sessions, ?_⟩
    · rw [words_word h, List.forall_mem_cons]
      exact ⟨hfits.known, haccepts.known⟩
    · exact (isChain_inputs_word_iff h args rest).mpr ⟨hfits.input, haccepts.inputs⟩

theorem accepts_session_iff (h : asksSession a) (args : Arguments) (id : String)
    (rest : List String) :
    args.Accepts (a :: id :: rest) ↔ { args with session := some id }.Accepts rest := by
  have hsessions : .sessionWithoutValue ∉ items (a :: id :: rest) ↔
      .sessionWithoutValue ∉ items rest := by
    simp [items_session h]
  constructor
  · rintro ⟨hknown, hitems, hinputs⟩
    rw [words_session h] at hknown
    rw [inputs_session h] at hinputs
    exact ⟨hknown, hsessions.mp hitems, hinputs⟩
  · rintro ⟨hknown, hitems, hinputs⟩
    refine ⟨?_, hsessions.mpr hitems, ?_⟩
    · rwa [words_session h]
    · rwa [inputs_session h]

theorem not_accepts_last (h : asksSession a) (args : Arguments) : ¬ args.Accepts [a] :=
  fun haccepts => haccepts.sessions (by simp [items_last h])

theorem add_word (h : ¬ asksSession a) (args : Arguments) (rest : List String) :
    args.add (a :: rest) = (args.take a).add rest := by
  have hpath : (inputs (a :: rest)).getLastD args.path =
      (inputs rest).getLastD (args.take a).path := by
    rw [inputs_word h, take]
    split
    · rw [List.getLastD_cons]
    · rfl
  have hflag (flag : String) (given : Bool) :
      (decide (flag ∈ words (a :: rest)) || given) =
        (decide (flag ∈ words rest) || (decide (a = flag) || given)) := by
    simp [words_word h, eq_comm, Bool.or_left_comm, Bool.or_assoc]
  simp only [add, hpath, sessions_word h, hflag]
  rfl

theorem add_session (h : asksSession a) (args : Arguments) (id : String) (rest : List String) :
    args.add (a :: id :: rest) = { args with session := some id }.add rest := by
  simp [add, inputs_session h, words_session h, sessions_session h, List.getLast?_cons]

/-- Whether a reading of these arguments has ended before it got through: with an error, or with the
answer to a question. -/
def Stops (arguments : List String) (result : Except ArgumentError Request) : Prop :=
  (∃ e, result = .error e) ∨
    (∃ a ∈ words arguments, a ∈ questions) ∧ (result = .ok .version ∨ result = .ok .help)

theorem Stops.not_run {arguments : List String} {result : Except ArgumentError Request}
    (h : Stops arguments result) (args : Arguments) : result ≠ .ok (.run args) := by
  rintro rfl
  simp [Stops] at h

theorem Stops.mono {arguments arguments' : List String} {result : Except ArgumentError Request}
    (h : Stops arguments result) (hwords : words arguments ⊆ words arguments') :
    Stops arguments' result := by
  obtain herror | ⟨⟨question, hmem, hquestion⟩, hanswer⟩ := h
  · exact .inl herror
  · exact .inr ⟨⟨question, hwords hmem, hquestion⟩, hanswer⟩

/-- Arguments are read through if they can be read, one on top of the other, and stop the reading
otherwise. -/
theorem parseFrom_cases (arguments : List String) (args : Arguments) :
    args.Accepts arguments ∧ parseFrom args arguments = .ok (.run (args.add arguments)) ∨
      ¬ args.Accepts arguments ∧ Stops arguments (parseFrom args arguments) := by
  -- Along the items, for all that may have been read before, as each of them adds to it.
  induction arguments using items.induct generalizing args with
  | case1 => exact .inl ⟨accepts_nil args, by rw [add_nil]; rfl⟩
  | case2 a h =>
    right
    exact ⟨not_accepts_last h args, .inl ⟨_, parseFrom_last h args⟩⟩
  | case3 a h id rest ih =>
    rw [accepts_session_iff h, parseFrom_session h, add_session h]
    refine (ih _).imp_right fun ⟨hrest, hstops⟩ => ⟨hrest, hstops.mono ?_⟩
    rw [words_session h]
    exact List.Subset.refl _
  | case4 a rest h ih =>
    rw [accepts_word_iff h, add_word h]
    by_cases hfits : args.Fits a
    · rw [parseFrom_of_fits hfits, and_iff_right hfits]
      refine (ih _).imp_right fun ⟨hrest, hstops⟩ => ⟨hrest, hstops.mono ?_⟩
      rw [words_word h]
      exact List.subset_cons_self _ _
    · right
      refine ⟨fun haccepts => hfits haccepts.1, ?_⟩
      refine (parseFrom_of_not_fits hfits h rest).imp_right ?_
      rintro ⟨hquestion, hanswer⟩
      exact ⟨⟨a, by simp [words_word h], hquestion⟩, hanswer⟩

theorem accepts_iff (arguments : List String) :
    ({} : Arguments).Accepts arguments ↔ IsAccepted arguments := by
  -- There is no file before the first input, so any input may come first.
  have hchain : (none :: inputs arguments).IsChain NotBothFiles ↔
      (inputs arguments).IsChain NotBothFiles := by
    rw [List.isChain_cons]
    exact and_iff_right fun _ _ => .inl rfl
  constructor
  · rintro ⟨hknown, hsessions, hinputs⟩
    exact ⟨hknown, hsessions, hchain.mp hinputs⟩
  · rintro ⟨hknown, hsessions, hinputs⟩
    exact ⟨hknown, hsessions, hchain.mpr hinputs⟩

theorem add_eq_told (arguments : List String) :
    ({} : Arguments).add arguments = told arguments := by
  simp [add, told]

end Arguments

theorem file?_ne_none {operand : String} (h : operand ≠ "-") : file? operand ≠ none := by
  simp [file?, h]

/-- Without a word for standard input, only one input is named. -/
theorem IsAccepted.length_operands_le {arguments : List String} (h : IsAccepted arguments)
    (hstdin : "-" ∉ operands arguments) : (operands arguments).length ≤ 1 := by
  have hinputs := h.inputs
  unfold CommandLine.inputs at hinputs
  match hoperands : operands arguments with
  | [] => simp
  | [_] => simp
  | p :: q :: rest =>
    rw [hoperands, List.map_cons, List.map_cons, List.isChain_cons_cons] at hinputs
    rw [hoperands, List.mem_cons, List.mem_cons, not_or, not_or] at hstdin
    obtain hp | hq := hinputs.1
    · exact absurd hp (file?_ne_none (Ne.symm hstdin.1))
    · exact absurd hq (file?_ne_none (Ne.symm hstdin.2.1))

/-- Which arguments are run, and what they tell; others are an error, unless there is a question
among them. Two inputs are an error only if both are files and are named one after the other. -/
theorem arguments_are_accepted_iff (arguments : List String) :
    (∀ args, Arguments.parse arguments = .ok (.run args) ↔
      IsAccepted arguments ∧ args = told arguments) ∧
    ((∀ a ∈ words arguments, a ∉ questions) → ¬ IsAccepted arguments →
      ∃ e, Arguments.parse arguments = .error e) ∧
    (IsAccepted arguments → "-" ∉ operands arguments → (operands arguments).length ≤ 1) := by
  have hcases := Arguments.parseFrom_cases arguments {}
  rw [Arguments.accepts_iff, Arguments.add_eq_told] at hcases
  refine ⟨fun args => ?_, fun hquestions hnot => ?_, fun h hstdin => h.length_operands_le hstdin⟩
  · obtain ⟨haccepted, hrun⟩ | ⟨hnot, hstops⟩ := hcases
    · rw [Arguments.parse, hrun, and_iff_right haccepted, Except.ok.injEq, Request.run.injEq,
        eq_comm]
    · exact iff_of_false (hstops.not_run args) fun h => hnot h.1
  · obtain ⟨haccepted, -⟩ | ⟨-, herror | ⟨⟨a, hmem, hquestion⟩, -⟩⟩ := hcases
    · exact absurd haccepted hnot
    · exact herror
    · exact absurd hquestion (hquestions a hmem)

/-- The word behind `-s` is neither an input nor a question. -/
theorem arguments_are_accepted_iff_of_session :
    Arguments.parse ["a", "--json", "-s", "-"] =
      .ok (.run { path := some "a", session := some "-", json := true }) ∧
    (operands ["a", "--json", "-s", "-"]).length ≤ 1 ∧
    ∃ e, Arguments.parse ["a", "-s", "--help", "--json", "b"] = .error e := by
  have haccepted : IsAccepted ["a", "--json", "-s", "-"] := by decide +kernel
  have hrejected : ¬ IsAccepted ["a", "-s", "--help", "--json", "b"] := by decide +kernel
  obtain ⟨hrun, -, hlength⟩ := arguments_are_accepted_iff ["a", "--json", "-s", "-"]
  obtain ⟨-, herror, -⟩ := arguments_are_accepted_iff ["a", "-s", "--help", "--json", "b"]
  exact ⟨(hrun _).mpr ⟨haccepted, by decide +kernel⟩, hlength haccepted (by decide +kernel),
    herror (by decide +kernel) hrejected⟩

/-- A file is forgotten where `-` stands behind it, and another file may then be named. -/
theorem inputs_are_accepted_around_dash :
    operands ["log.jsonl", "-"] = ["log.jsonl", "-"] ∧
    Arguments.parse ["log.jsonl", "-"] = .ok (.run {}) ∧
    Arguments.parse ["log.jsonl", "-", "new.jsonl"] =
      .ok (.run { path := some "new.jsonl" }) := by
  decide +kernel

end AgentTranscript.CommandLine
