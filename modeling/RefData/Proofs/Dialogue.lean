import RefData.Proofs.Exchange
set_option autoImplicit false

namespace RefData

def Call.asks (call : Call) (target : String) : Bool :=
  match call with
  | .rpc method _ => target == method
  | .get path _ => target == path
  | _ => false

abbrev Dialogue := List (Call × Reply)

namespace Dialogue

def answered (said : Dialogue) (target : String) : List Json :=
  said.filterMap fun (call, reply) => if call.asks target then reply.toOption else none

def listed (said : Dialogue) (target : String) : List Json :=
  (said.answered target).flatMap Json.records

@[simp] theorem answered_nil (target : String) : answered [] target = [] := rfl

@[simp] theorem answered_cons (call : Call) (reply : Reply) (said : Dialogue) (target : String) :
    answered ((call, reply) :: said) target =
      (if call.asks target then reply.toOption.toList else []) ++ answered said target := by
  by_cases asked : call.asks target <;> cases reply <;> simp [answered, asked, Except.toOption]

@[simp] theorem answered_append (said more : Dialogue) (target : String) :
    answered (said ++ more) target = answered said target ++ answered more target := by
  simp [answered]

@[simp] theorem listed_nil (target : String) : listed [] target = [] := rfl

@[simp] theorem listed_cons (call : Call) (reply : Reply) (said : Dialogue) (target : String) :
    listed ((call, reply) :: said) target =
      (if call.asks target then (reply.map Json.records).toOption.getD [] else []) ++
        listed said target := by
  by_cases asked : call.asks target <;> cases reply <;>
    simp [listed, asked, Except.toOption, Except.map]

@[simp] theorem listed_append (said more : Dialogue) (target : String) :
    listed (said ++ more) target = listed said target ++ listed more target := by
  simp [listed]

end Dialogue

namespace Fetch

variable {α β : Type}

structure Gives (work : Fetch α) (b : Backend) (value : α) (said : Dialogue) : Prop where
  value : work.against b = value
  said : work.exchanges b = said

namespace Gives

variable {b : Backend} {said : Dialogue}

theorem of_done {value result : α} (gives : (done value).Gives b result said) :
    result = value ∧ said = [] :=
  ⟨gives.value.symm, gives.said.symm⟩

theorem of_ask {call : Call} {next : Reply → Fetch α} {result : α}
    (gives : (ask call next).Gives b result said) :
    ∃ reply later after, said = (call, reply) :: after ∧
      (next reply).Gives later result after := by
  obtain ⟨rfl, rfl⟩ := gives
  exact ⟨_, _, _, rfl, rfl, rfl⟩

theorem of_bind {first : Fetch α} {rest : α → Fetch β} {result : β}
    (gives : (first.bind rest).Gives b result said) :
    ∃ got before later after, said = before ++ after ∧ first.Gives b got before ∧
      (rest got).Gives later result after := by
  obtain ⟨rfl, rfl⟩ := gives
  exact ⟨_, _, _, _, exchanges_bind first rest b, ⟨rfl, rfl⟩,
    (against_bind first rest b).symm, rfl⟩

-- A list that is missing counts as an empty one here and in the dialogue alike.
theorem of_optionalRecords {method : String} {params records : List Json}
    (gives : (Inquiry.optionalRecords method params).Gives b records said) (target : String) :
    said.listed target = if target = method then records else [] := by
  obtain ⟨reply, _, _, rfl, rest⟩ := gives.of_ask
  cases reply <;> obtain ⟨rfl, rfl⟩ := of_done rest <;>
    simp [Call.asks, Except.map, Except.toOption]

end Gives

end Fetch

namespace Inquiry

variable {α β : Type}

def Yields (work : Inquiry α) (b : Backend) (value : α) (said : Dialogue) : Prop :=
  work.attempt.Gives b (.ok value) said

namespace Yields

variable {b : Backend} {said : Dialogue}

theorem of_pure {value result : α} (yields : (pure value : Inquiry α).Yields b result said) :
    result = value ∧ said = [] := by
  obtain ⟨same, rfl⟩ := Fetch.Gives.of_done yields
  exact ⟨Except.ok.inj same, rfl⟩

theorem of_bind {first : Inquiry α} {rest : α → Inquiry β} {result : β}
    (yields : (first >>= rest).Yields b result said) :
    ∃ got before later after, said = before ++ after ∧ first.Yields b got before ∧
      (rest got).Yields later result after := by
  rw [Yields, attempt_bind] at yields
  obtain ⟨outcome, before, later, after, rfl, first, rest⟩ := Fetch.Gives.of_bind yields
  cases outcome with
  | error reason => cases (Fetch.Gives.of_done rest).1
  | ok got => exact ⟨got, before, later, after, rfl, first, rest⟩

theorem of_listing {call : Call} {records : List Json}
    (yields : (listing call).Yields b records said) :
    ∃ reply, said = [(call, .ok reply)] ∧ records = reply.records := by
  rw [Yields, listing_attempt] at yields
  obtain ⟨reply, _, _, rfl, gives⟩ := Fetch.Gives.of_ask yields
  obtain ⟨same, rfl⟩ := Fetch.Gives.of_done gives
  cases reply with
  | error reason => cases same
  | ok reply => exact ⟨reply, rfl, Except.ok.inj same⟩

theorem of_rpcRecords {method : String} {params records : List Json}
    (yields : (rpcRecords method params).Yields b records said) (target : String) :
    said.listed target = if target = method then records else [] := by
  have listing : (listing (.rpc method params)).Yields b records said := yields
  obtain ⟨reply, rfl, rfl⟩ := listing.of_listing
  simp [Call.asks, Except.map, Except.toOption]

end Yields

end Inquiry

end RefData
