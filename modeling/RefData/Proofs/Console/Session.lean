import RefData.Console.Run
import RefData.Proofs.Exchange
set_option autoImplicit false

namespace RefData

def Call.isLogin : Call → Bool
  | .login _ => true
  | _ => false

def Backend.afterCall (b : Backend) (call : Call) : Backend :=
  { b with state := (b.answer call b.state).2 }

namespace Fetch

variable {α β : Type}

theorem calls_ask (call : Call) (next : Reply → Fetch α) (b : Backend) :
    (ask call next).calls b =
      call :: (next (b.answer call b.state).1).calls (b.afterCall call) := rfl

theorem against_ask (call : Call) (next : Reply → Fetch α) (b : Backend) :
    (ask call next).against b = (next (b.answer call b.state).1).against (b.afterCall call) := rfl

inductive WithoutLogin : Fetch α → Prop
  | done (value : α) : WithoutLogin (.done value)
  | ask {call : Call} {next : Reply → Fetch α} (plain : call.isLogin = false)
      (later : ∀ reply, WithoutLogin (next reply)) : WithoutLogin (.ask call next)

namespace WithoutLogin

theorem bind {first : Fetch α} {rest : α → Fetch β} (before : first.WithoutLogin)
    (behind : ∀ value, (rest value).WithoutLogin) : (first.bind rest).WithoutLogin := by
  induction before with
  | done value => exact behind value
  | ask plain _ ih => exact .ask plain ih

theorem calls {work : Fetch α} (without : work.WithoutLogin) (b : Backend) :
    ∀ call ∈ work.calls b, call.isLogin = false := by
  induction without generalizing b with
  | done value => exact fun call mem => (List.not_mem_nil mem).elim
  | @ask asked next plain _ ih =>
    rw [calls_ask, List.forall_mem_cons]
    exact ⟨plain, ih _ _⟩

end WithoutLogin

end Fetch

namespace Backend

def replies (b : Backend) : List Call → List Reply
  | [] => []
  | call :: rest => (b.answer call b.state).1 :: (b.afterCall call).replies rest

def Alike (b other : Backend) : Prop :=
  ∀ calls : List Call, (∀ call ∈ calls, call.isLogin = false) →
    b.replies calls = other.replies calls

-- Whether there was a login makes no difference to the replies to other calls.
def DisregardsLogin (b : Backend) : Prop := ∀ fields, (b.afterCall (.login fields)).Alike b

variable {b other : Backend} {call : Call}

theorem Alike.reply_eq (alike : b.Alike other) (plain : call.isLogin = false) :
    (b.answer call b.state).1 = (other.answer call other.state).1 := by
  have same := alike [call] (by simpa using plain)
  exact (List.cons.inj same).1

theorem Alike.afterCall (alike : b.Alike other) (plain : call.isLogin = false) :
    (b.afterCall call).Alike (other.afterCall call) := by
  intro calls plainToo
  have same := alike (call :: calls) (List.forall_mem_cons.2 ⟨plain, plainToo⟩)
  exact (List.cons.inj same).2

theorem Alike.run_eq {α : Type} {work : Fetch α} (without : work.WithoutLogin)
    (alike : b.Alike other) :
    work.calls b = work.calls other ∧ work.against b = work.against other := by
  induction without generalizing b other with
  | done value => exact ⟨rfl, rfl⟩
  | @ask call next plain _ ih =>
    have replied := alike.reply_eq plain
    have rest := ih (b.answer call b.state).1 (alike.afterCall plain)
    rw [replied] at rest
    simp only [Fetch.calls_ask, Fetch.against_ask, replied, rest, and_self]

end Backend

namespace Inquiry

variable {α β : Type}

def WithoutLogin (inquiry : Inquiry α) : Prop := inquiry.attempt.WithoutLogin

namespace WithoutLogin

theorem pure (value : α) : WithoutLogin (Pure.pure value) := .done _

theorem bind {first : Inquiry α} {rest : α → Inquiry β} (before : first.WithoutLogin)
    (behind : ∀ value, (rest value).WithoutLogin) : (first >>= rest).WithoutLogin := by
  rw [WithoutLogin, attempt_bind]
  refine Fetch.WithoutLogin.bind before fun outcome => ?_
  cases outcome with
  | ok value => exact behind value
  | error reason => exact .done _

theorem call {c : Call} (plain : c.isLogin = false) : (Inquiry.call c).WithoutLogin :=
  .ask plain fun _ => .done _

theorem lift {work : Fetch α} (without : work.WithoutLogin) :
    (liftM work : Inquiry α).WithoutLogin :=
  Fetch.WithoutLogin.bind without fun _ => .done _

theorem rpcRecords (method : String) (params : List Json) :
    (Inquiry.rpcRecords method params).WithoutLogin :=
  .bind (.call rfl) fun _ => .pure _

theorem restRecords (path : String) : (Inquiry.restRecords path).WithoutLogin :=
  .bind (.call rfl) fun _ => .pure _

end WithoutLogin

end Inquiry

theorem Fetch.WithoutLogin.orElse {α : Type} {inquiry : Inquiry α} (without : inquiry.WithoutLogin)
    (fallback : α) : (inquiry.orElse fallback).WithoutLogin := by
  refine .bind without fun outcome => ?_
  cases outcome <;> exact .done _

namespace Console

open Inquiry

theorem withoutLogin_loadLinks : Parameter.loadLinks.WithoutLogin := by
  have optional (method : String) (params : List Json) :
      (optionalRecords method params).WithoutLogin := .orElse (.rpcRecords method params) []
  refine Fetch.WithoutLogin.bind (Inquiry.WithoutLogin.call rfl) fun outcome => ?_
  cases outcome with
  | error reason => exact .done _
  | ok reply =>
    dsimp only
    split
    · exact .done _
    · exact .bind (optional _ _) fun _ => .bind (optional _ _) fun _ =>
        .bind (optional _ _) fun _ => .done _

theorem withoutLogin_parameters : Parameter.fetchSnapshot.WithoutLogin :=
  .bind (.rpcRecords _ _) fun _ => .bind (.rpcRecords _ _) fun _ => .bind (.rpcRecords _ _) fun _ =>
    .bind (.lift withoutLogin_loadLinks) fun _ => .pure _

theorem withoutLogin_defects : Defect.fetchSnapshot.WithoutLogin := by
  have part (p : Defect.Part) (combined : Json) : (p.fetch combined).WithoutLogin := by
    unfold Defect.Part.fetch
    split
    · exact .pure _
    · exact .restRecords _
  exact .bind (.lift (.orElse (.call rfl) _)) fun _ => .bind (part _ _) fun _ =>
    .bind (part _ _) fun _ => .bind (part _ _) fun _ => .bind (part _ _) fun _ => .pure _

theorem withoutLogin_components : Component.load.WithoutLogin :=
  .bind (.rpcRecords _ _) fun _ => .pure _

theorem withoutLogin_objectTypes : ObjectType.fetchSnapshot.WithoutLogin :=
  .bind (.rpcRecords _ _) fun _ => .bind (.rpcRecords _ _) fun _ => .pure _

theorem withoutLogin_sources : Source.load.WithoutLogin :=
  .bind (.rpcRecords _ _) fun _ => .pure _

theorem withoutLogin_snapshot (kind : SnapshotKind) : (snapshot kind).WithoutLogin := by
  cases kind with
  | parameters => exact .bind withoutLogin_parameters fun _ => .pure _
  | defects => exact .bind withoutLogin_defects fun _ => .pure _
  | components =>
    have listed : (Repository.snapshot.run ComponentStore.empty).WithoutLogin := by
      refine .bind (.bind withoutLogin_components fun _ => .done _) fun (outcome, s) => ?_
      cases outcome <;> exact .done _
    exact .bind (.lift listed) fun _ => .pure _
  | objectTypes => exact .bind withoutLogin_objectTypes fun _ => .pure _
  | sources =>
    exact .bind (.bind withoutLogin_sources fun _ =>
      .bind (.bind (.rpcRecords _ _) fun _ => .pure _) fun _ => .pure _) fun _ => .pure _

theorem withoutLogin_search (text : String) : (Search.search text).WithoutLogin := by
  have sections (query : String) : (Search.searchSections query).WithoutLogin := by
    unfold Search.searchSections
    dsimp only
    split
    · exact .done _
    · exact .bind (.orElse (.bind withoutLogin_sources fun _ => .pure _) _) fun _ =>
        .bind (.orElse (.bind withoutLogin_objectTypes fun _ => .pure _) _) fun _ =>
        .bind (.orElse (.bind withoutLogin_components fun _ => .pure _) _) fun _ =>
        .bind (.orElse (.bind withoutLogin_parameters fun _ => .pure _) _) fun _ =>
        .bind (.orElse (.bind withoutLogin_defects fun _ => .pure _) _) fun _ => .done _
  have endpoint (query : String) : (Search.searchEndpoint query).WithoutLogin := by
    refine Fetch.WithoutLogin.bind (Inquiry.WithoutLogin.call rfl) fun outcome => ?_
    cases outcome <;> exact .done _
  unfold Search.search
  dsimp only
  split
  · exact .done _
  · refine Fetch.WithoutLogin.bind (endpoint _) fun found => ?_
    cases found with
    | some hits => exact .done _
    | none => exact sections _

theorem withoutLogin_perform (command : Command) : (perform command).WithoutLogin := by
  cases command with
  | login => exact .pure _
  | whoami => exact .bind (.bind (.call rfl) fun _ => .pure _) fun _ => .pure _
  | snapshot kind => exact withoutLogin_snapshot kind
  | dashboard limit =>
    have read {α : Type} {c : Call} (plain : c.isLogin = false) (f : Json → Except Failure α) :
        ((Inquiry.call c >>= fun reply => liftM (f reply)) : Inquiry α).WithoutLogin :=
      .bind (.call plain) fun _ => Fetch.WithoutLogin.done _
    have page : (Dashboard.fetchPage limit).WithoutLogin :=
      .bind (read rfl _) fun _ => .bind (read rfl _) fun _ => .bind (read rfl _) fun _ =>
        .bind (read rfl _) fun _ => .pure _
    exact .bind page fun _ => .pure _
  | search query => exact .bind (.lift (withoutLogin_search query)) fun _ => .pure _

theorem withoutLogin_execute_none (command : Command) :
    (execute none command).run.WithoutLogin := by
  have performed {command : Command} :
      (Work.ofInquiry (perform command) .failed).run.WithoutLogin := by
    refine .bind (withoutLogin_perform command) fun outcome => ?_
    cases outcome <;> exact .done _
  cases command with
  | login => exact .done _
  | whoami | snapshot kind | dashboard limit | search query => exact performed

def opening (c : Credentials) : Call :=
  .login [("username", c.username), ("password", c.password)]

def opened : Reply → Except Failure Login
  | .ok body => Login.ofResponse (Login.replyText body)
  | .error reason => .error reason

theorem submit_attempt (c : Credentials) :
    (Login.submit c).attempt = .ask (opening c) fun reply => .done (opened reply) := by
  change Fetch.ask _ _ = _
  congr 1
  funext reply
  cases reply <;> rfl

def goOn (fault : Failure → Fault) (rest : Login → Work Json) :
    Except Failure Login → Fetch (Except Fault Json)
  | .ok login => (rest login).run
  | .error reason => .done (.error (fault reason))

theorem submit_bind (c : Credentials) (fault : Failure → Fault) (rest : Login → Work Json) :
    (Work.ofInquiry (Login.submit c) fault >>= rest).run =
      .ask (opening c) fun reply => goOn fault rest (opened reply) := by
  change ((Login.submit c).attempt.bind _).bind _ = _
  rw [submit_attempt, Fetch.bind_ask, Fetch.bind_ask]
  congr 1
  funext reply
  rw [Fetch.bind_done]
  cases opened reply <;> rfl

theorem execute_some (c : Credentials) {command : Command} (other : command ≠ .login) :
    execute (some c) command =
      Work.ofInquiry (Login.submit c) .noSession >>= fun _ => execute none command := by
  cases command with
  | login => exact absurd rfl other
  | whoami | snapshot kind | dashboard limit | search query => rfl

/-- With credentials, the first call is the login with exactly these. A login that fails or is not
accepted stops the command; behind one that is accepted, the command takes the course that it takes
without credentials, in which there is no login. The login command makes this one call, or none when
there are no credentials. -/
theorem session_is_opened_first (b : Backend) (c : Credentials) :
    let opening := Call.login [("username", c.username), ("password", c.password)]
    let reply := (b.answer opening b.state).1
    (∀ command, command ≠ .login →
      let work := (execute (some c) command).run
      let bare := (execute none command).run
      (work.calls b).head? = some opening ∧
      (∀ reason, reply = .error reason →
        work.calls b = [opening] ∧ work.against b = .error (.noSession reason)) ∧
      (∀ body reason, reply = .ok body →
        Login.ofResponse (Login.replyText body) = .error reason →
          work.calls b = [opening] ∧ work.against b = .error (.noSession reason)) ∧
      (∀ body login, reply = .ok body →
        Login.ofResponse (Login.replyText body) = .ok login → b.DisregardsLogin →
          work.calls b = opening :: bare.calls b ∧ work.against b = bare.against b) ∧
      ∀ call ∈ bare.calls b, call.isLogin = false) ∧
    (execute (some c) .login).run.calls b = [opening] ∧
    (execute none .login).run.calls b = [] := by
  intro opening reply
  refine ⟨fun command other => ?_, ?_, rfl⟩
  · intro work bare
    have without := withoutLogin_execute_none command
    have asks : work = .ask opening fun reply =>
        goOn .noSession (fun _ => execute none command) (opened reply) :=
      (congrArg ExceptT.run (execute_some c other)).trans (submit_bind c _ _)
    have calls := (congrArg (·.calls b) asks).trans (Fetch.calls_ask _ _ b)
    have value := (congrArg (·.against b) asks).trans (Fetch.against_ask _ _ b)
    have refused {reason : Failure} (judged : opened reply = .error reason) :
        work.calls b = [opening] ∧ work.against b = .error (.noSession reason) := by
      rw [calls, value, judged]
      exact ⟨rfl, rfl⟩
    refine ⟨by rw [calls]; rfl, ?_, ?_, ?_, without.calls b⟩
    · intro reason failed
      exact refused (by rw [failed, opened])
    · intro body reason answered judged
      exact refused (by rw [answered, opened, judged])
    · intro body login answered judged disregards
      have accepted : opened reply = .ok login := by rw [answered, opened, judged]
      obtain ⟨sameCalls, sameValue⟩ := (disregards _).run_eq without
      rw [calls, value, accepted]
      exact ⟨congrArg (opening :: ·) sameCalls, sameValue⟩
  · have asks := submit_bind c .failed fun login => pure login.toJson
    refine (congrArg (·.calls b) asks).trans ?_
    rw [Fetch.calls_ask]
    cases opened (b.answer (Console.opening c) b.state).1 <;> rfl

theorem disregardsLogin_ofReplies (reply : Call → Reply) :
    (Backend.ofReplies reply).DisregardsLogin := fun _ _ _ => rfl

theorem session_is_opened_first_for_whoami :
    let b := Backend.ofReplies fun call =>
      .ok (if call.isLogin then .str " ok\n" else .obj [("target", .str "nsi:read")])
    let work := (execute (some ⟨"ivanov", "secret"⟩) .whoami).run
    b.DisregardsLogin ∧
      work.calls b = [.login [("username", "ivanov"), ("password", "secret")],
        .rpc "data/getCurUserInfo" []] ∧
      work.against b = (execute none .whoami).run.against b := by
  intro b work
  have disregards : b.DisregardsLogin := disregardsLogin_ofReplies _
  have accepted : Login.ofResponse " ok\n" = .ok .accepted := by
    have trimmed : Text.trim " ok\n" = "ok" := by decide
    rw [Login.ofResponse, trimmed, if_pos rfl]
  have opened := (session_is_opened_first b ⟨"ivanov", "secret"⟩).1 .whoami (by decide)
  obtain ⟨calls, value⟩ := opened.2.2.2.1 (.str " ok\n") .accepted rfl accepted disregards
  exact ⟨disregards, calls, value⟩

end Console

end RefData
