import RefData.Exchange.Fetch
set_option autoImplicit false

namespace RefData

-- Nothing is assumed of a backend: what it answers may depend on every call before.
structure Backend where
  State : Type
  state : State
  answer : Call → State → Reply × State

namespace Backend

def always (reply : Reply) : Backend := ⟨Unit, (), fun _ state => (reply, state)⟩

def ofReplies (reply : Call → Reply) : Backend := ⟨Unit, (), fun call state => (reply call, state)⟩

def after {α : Type} (b : Backend) (work : Fetch α) : Backend :=
  { b with state := (work.run b.answer b.state).backend }

end Backend

def Failure.among {α : Type} (outcomes : List (Except Failure α)) : List Failure :=
  outcomes.filterMap fun
    | .error reason => some reason
    | .ok _ => none

@[simp] theorem Failure.among_nil {α : Type} : among ([] : List (Except Failure α)) = [] := rfl

@[simp] theorem Failure.among_cons_ok {α : Type} (value : α) (rest : List (Except Failure α)) :
    among (.ok value :: rest) = among rest := rfl

@[simp] theorem Failure.among_cons_error {α : Type} (reason : Failure)
    (rest : List (Except Failure α)) : among (.error reason :: rest) = reason :: among rest := rfl

namespace Fetch

variable {α β : Type}

def against (work : Fetch α) (b : Backend) : α := (work.run b.answer b.state).value

def calls (work : Fetch α) (b : Backend) : List Call := (work.run b.answer b.state).calls

def exchanges : Fetch α → Backend → List (Call × Reply)
  | .done _, _ => []
  | .ask call next, b =>
    let answered := b.answer call b.state
    (call, answered.1) :: (next answered.1).exchanges { b with state := answered.2 }

theorem bind_assoc {γ : Type} (first : Fetch α) (rest : α → Fetch β) (last : β → Fetch γ) :
    (first.bind rest).bind last = first.bind fun value => (rest value).bind last := by
  induction first with
  | done value => rfl
  | ask call next ih => exact congrArg (ask call) (funext ih)

@[simp] theorem against_done (value : α) (b : Backend) : (done value).against b = value := rfl

@[simp] theorem against_bind (first : Fetch α) (rest : α → Fetch β) (b : Backend) :
    (first.bind rest).against b = (rest (first.against b)).against (b.after first) := by
  simp [against, Backend.after, run_bind]

theorem calls_bind (first : Fetch α) (rest : α → Fetch β) (b : Backend) :
    (first.bind rest).calls b = first.calls b ++ (rest (first.against b)).calls (b.after first) := by
  simp [calls, against, Backend.after, run_bind]

theorem calls_eq_exchanges (work : Fetch α) (b : Backend) :
    work.calls b = (work.exchanges b).map Prod.fst := by
  induction work generalizing b with
  | done value => rfl
  | ask call next ih =>
    have later := ih (b.answer call b.state).1 { b with state := (b.answer call b.state).2 }
    exact congrArg (call :: ·) later

theorem exchanges_bind (first : Fetch α) (rest : α → Fetch β) (b : Backend) :
    (first.bind rest).exchanges b =
      first.exchanges b ++ (rest (first.against b)).exchanges (b.after first) := by
  induction first generalizing b with
  | done value => rfl
  | ask call next ih =>
    have later := ih (b.answer call b.state).1 { b with state := (b.answer call b.state).2 }
    exact congrArg ((call, (b.answer call b.state).1) :: ·) later

end Fetch

namespace Inquiry

variable {α β : Type}

def goOn (outcome : Except Failure α) (rest : α → Inquiry β) : Inquiry β :=
  match outcome with
  | .ok value => rest value
  | .error reason => fail reason

theorem attempt_bind (first : Inquiry α) (rest : α → Inquiry β) :
    (first >>= rest).attempt = first.attempt.bind fun outcome => (goOn outcome rest).attempt := by
  change first.attempt.bind _ = _
  congr 1
  funext outcome
  cases outcome <;> rfl

theorem attempt_lift_bind (first : Fetch α) (rest : α → Inquiry β) :
    ((liftM first : Inquiry α) >>= rest).attempt =
      first.bind fun value => (rest value).attempt := by
  rw [attempt_bind]
  exact Fetch.bind_assoc first _ _

theorem orElse_call (call : Call) (fallback : Json) :
    (Inquiry.call call).orElse fallback =
      .ask call fun reply => .done (reply.toOption.getD fallback) := by
  change Fetch.ask call _ = _
  congr 1
  funext reply
  cases reply <;> rfl

def listing (call : Call) : Inquiry (List Json) := do
  return (← Inquiry.call call).records

theorem listing_attempt (call : Call) :
    (listing call).attempt = .ask call fun reply => .done (reply.map Json.records) := by
  change Fetch.ask call _ = _
  congr 1
  funext reply
  cases reply <;> rfl

end Inquiry

namespace Backend

variable {α β : Type}

def Answers (b : Backend) (work : Fetch α) (call : Call) (holds : Reply → Prop) : Prop :=
  ∀ reply, (call, reply) ∈ work.exchanges b → holds reply

theorem Answers.first {b : Backend} {first : Fetch α} {rest : α → Fetch β} {call : Call}
    {holds : Reply → Prop} (answers : b.Answers (first.bind rest) call holds) :
    b.Answers first call holds := by
  intro reply mem
  apply answers reply
  rw [Fetch.exchanges_bind]
  exact List.mem_append_left _ mem

theorem answers_ofReplies {replies : Call → Reply} {holds : Reply → Prop} {call : Call}
    (held : holds (replies call)) (work : Fetch α) :
    (ofReplies replies).Answers work call holds := by
  induction work with
  | done value => exact fun reply mem => (List.not_mem_nil mem).elim
  | ask asked next ih =>
    intro reply mem
    rcases List.mem_cons.1 mem with here | there
    · cases here
      exact held
    · exact ih _ reply there

def Lists (b : Backend) (work : Fetch α) (call : Call) (outcome : Except Failure (List Json)) :
    Prop :=
  b.Answers work call fun reply => reply.map Json.records = outcome

theorem lists_ofReplies {replies : Call → Reply} {call : Call}
    {outcome : Except Failure (List Json)} (listed : (replies call).map Json.records = outcome)
    (work : Fetch α) : (ofReplies replies).Lists work call outcome :=
  answers_ofReplies listed work

-- After some calls, what is left of the work is the rest, to be answered by a later backend.
structure Continues (b : Backend) (work : Fetch α) (asked : List Call) (later : Backend)
    (rest : Fetch α) : Prop where
  value : work.against b = rest.against later
  exchanges : ∃ said : List (Call × Reply),
    said.map Prod.fst = asked ∧ work.exchanges b = said ++ rest.exchanges later

namespace Continues

variable {b later last : Backend} {work rest final : Fetch α} {asked more : List Call}

theorem refl (b : Backend) (work : Fetch α) : b.Continues work [] b work := ⟨rfl, [], rfl, rfl⟩

theorem trans (first : b.Continues work asked later rest)
    (second : later.Continues rest more last final) :
    b.Continues work (asked ++ more) last final := by
  obtain ⟨said, rfl, exchanges⟩ := first.exchanges
  obtain ⟨saidNext, rfl, exchangesNext⟩ := second.exchanges
  refine ⟨first.value.trans second.value, said ++ saidNext, by simp, ?_⟩
  rw [exchanges, exchangesNext, List.append_assoc]

theorem answers (continues : b.Continues work asked later rest) {call : Call}
    {holds : Reply → Prop} (answers : b.Answers work call holds) :
    later.Answers rest call holds := by
  obtain ⟨said, _, exchanges⟩ := continues.exchanges
  intro reply mem
  apply answers reply
  rw [exchanges]
  exact List.mem_append_right said mem

theorem calls (continues : b.Continues work asked later rest) :
    work.calls b = asked ++ rest.calls later := by
  obtain ⟨said, rfl, exchanges⟩ := continues.exchanges
  rw [Fetch.calls_eq_exchanges, exchanges, List.map_append, ← Fetch.calls_eq_exchanges]

theorem bind (first : Fetch α) (rest : α → Fetch β) (b : Backend) :
    b.Continues (first.bind rest) (first.calls b) (b.after first) (rest (first.against b)) :=
  ⟨Fetch.against_bind first rest b, first.exchanges b, (Fetch.calls_eq_exchanges first b).symm,
    Fetch.exchanges_bind first rest b⟩

end Continues

theorem Lists.continues {b : Backend} {call : Call} {rest : List Json → Inquiry β}
    {outcome : Except Failure (List Json)}
    (lists : b.Lists (Inquiry.listing call >>= rest).attempt call outcome) :
    ∃ later, b.Continues (Inquiry.listing call >>= rest).attempt [call] later
      (Inquiry.goOn outcome rest).attempt := by
  rw [Inquiry.attempt_bind, Inquiry.listing_attempt] at *
  have first := lists (b.answer call b.state).1 List.mem_cons_self
  have continues := Continues.bind (.ask call fun reply => .done (reply.map Json.records))
    (fun outcome => (Inquiry.goOn outcome rest).attempt) b
  subst first
  exact ⟨_, continues⟩

end Backend

end RefData
