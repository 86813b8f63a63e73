import RefData.Proofs.Proxy.Filter
import RefData.Proofs.Settings.Base
set_option autoImplicit false

namespace RefData.Http

structure Request.Agree (r s : Request) : Prop where
  method : r.method = s.method
  url : r.url = s.url
  headers : r.headers.Agree s.headers
  body : r.body = s.body

structure Delivery.Agree (d e : Delivery) : Prop where
  method : d.method = e.method
  url : d.url = e.url
  headers : d.headers.Agree e.headers
  body : d.body = e.body

theorem Request.Agree.delivery? {r s : Request} (agree : r.Agree s) :
    Option.Rel Delivery.Agree r.delivery? s.delivery? := by
  simp only [Request.delivery?, agree.url]
  cases (Url.parse s.url).toOption with
  | none => exact .none
  | some url =>
    have fields := (agree.headers.putDefault "accept" "*/*").putDefault "host" (authority url)
    simp only [Option.bind_eq_bind, Option.bind_some]
    split
    · apply Option.Rel.some
      refine ⟨agree.method, rfl, ?_, congrArg (Option.getD · "") agree.body⟩
      cases basicAuthorization? url with
      | none => exact fields
      | some value => exact fields.putDefault "authorization" value
    · exact .none

end RefData.Http

namespace RefData.Proxy

open Http Http.Headers

-- Requests that differ at most in where the browser says that it comes from.
structure AgreeButSource (a b : Incoming) : Prop where
  method : a.method = b.method
  target : a.target = b.target
  headers : ∀ name, name ≠ "origin" → name ≠ "referer" →
    a.headers.values name = b.headers.values name
  body : a.body = b.body

section

variable {a b : Incoming} (agree : AgreeButSource a b)

include agree

theorem isHopByHop_eq (name : String) :
    isHopByHop a.headers name = isHopByHop b.headers name := by
  have same := agree.headers "connection" (by decide) (by decide)
  simp only [isHopByHop, connectionTokens, same]

theorem backendHeaders_agree {origin : String} (readable : Legible origin.toList) :
    (backendHeaders a.headers (some origin)).Agree (backendHeaders b.headers (some origin)) := by
  intro name
  rw [values_backendHeaders_put readable, values_backendHeaders_put readable]
  split
  · rfl
  next notReferer =>
    split
    · rfl
    next notOrigin =>
      have passes := values_filter a.headers name fun key =>
        key != "host" && key != "content-length" && !isHopByHop a.headers key
      have passes' := values_filter b.headers name fun key =>
        key != "host" && key != "content-length" && !isHopByHop b.headers key
      rw [passes, passes', isHopByHop_eq agree, agree.headers name notOrigin notReferer]

theorem first?_eq {name : String} (notOrigin : name ≠ "origin") (notReferer : name ≠ "referer") :
    a.headers.first? name = b.headers.first? name := by
  rw [first?, first?, agree.headers name notOrigin notReferer]

theorem servingHost_eq : servingHost a.headers = servingHost b.headers := by
  have noted := first?_eq agree (show "x-forwarded-host" ≠ "origin" by decide) (by decide)
  have own := first?_eq agree (show "host" ≠ "origin" by decide) (by decide)
  simp only [servingHost, noted, own]

theorem browserResponse_eq (response : Response) :
    browserResponse a response = browserResponse b response := by
  have host : cookieHost a.headers = cookieHost b.headers := by
    rw [cookieHost, cookieHost, servingHost_eq agree]
  have scheme := first?_eq agree (show "x-forwarded-proto" ≠ "origin" by decide) (by decide)
  have site : servingOrigin? a.headers = servingOrigin? b.headers := by
    simp only [servingOrigin?, servingHost_eq agree, scheme]
  simp only [browserResponse, browserHeaders, host, site]

theorem backendRequest_agree {base origin : String} (backend : originOf? base = some origin) :
    (∃ fault, backendRequest base a = .error fault ∧ backendRequest base b = .error fault) ∨
    ∃ r s, backendRequest base a = .ok r ∧ backendRequest base b = .ok s ∧ r.Agree s := by
  simp only [backendRequest, agree.method, agree.target, agree.body, backend]
  generalize (if hasNoBody b.method = true then none else some b.body) = body
  split
  · refine .inr ⟨_, _, rfl, rfl, rfl, rfl, ?_, rfl⟩
    exact backendHeaders_agree agree (legible_of_originOf? backend)
  · exact .inl ⟨_, rfl, rfl⟩

end

theorem exists_originOf? {configured : Option String} {base : String}
    (accepted : backendBase configured = .ok (some base)) :
    ∃ origin, originOf? base = some origin := by
  unfold backendBase at accepted
  split at accepted
  next raw _ =>
    cases normal : Settings.normalizeBase raw with
    | error fault =>
      rw [normal] at accepted
      cases accepted
    | ok base' =>
      rw [normal] at accepted
      cases accepted
      obtain ⟨-, b, read, -⟩ := Settings.of_normalizeBase normal
      exact ⟨b.origin, by simp [originOf?, read, Except.toOption]⟩
  next => cases accepted

def delivered (base : Option String) (incoming : Incoming) : Option Delivery :=
  base.bind fun base => (backendRequest base incoming).toOption.bind Request.delivery?

theorem forward_of_request {base : String} {incoming : Incoming} {request : Request}
    (made : backendRequest base incoming = .ok request) (transport : Transport) :
    forward (some base) transport incoming =
      match request.delivery?.bind transport with
      | some response => .ok (browserResponse incoming response)
      | none => .error (.badGateway noDetail) := by
  simp only [forward, made]
  rfl

theorem forward_of_fault {base : String} {incoming : Incoming} {fault : Fault}
    (failed : backendRequest base incoming = .error fault) (transport : Transport) :
    forward (some base) transport incoming = .error fault := by
  simp only [forward, failed]
  rfl

/-- Where a browser says that it comes from is kept from the backend and plays no part in what the
browser gets: the backend receives the same request, and from the same response the same response
is made. -/
theorem source_stays_unseen {configured base : Option String} {a b : Incoming}
    (accepted : backendBase configured = .ok base) (agree : AgreeButSource a b) :
    Option.Rel Delivery.Agree (delivered base a) (delivered base b) ∧
    ∀ there here : Transport,
      (∀ d ∈ delivered base a, ∀ e ∈ delivered base b, there d = here e) →
        forward base there a = forward base here b := by
  cases base with
  | none => exact ⟨.none, fun _ _ _ => rfl⟩
  | some base =>
    obtain ⟨origin, backend⟩ := exists_originOf? accepted
    rcases backendRequest_agree agree backend with
      ⟨fault, failed, failed'⟩ | ⟨r, s, made, made', same⟩
    · refine ⟨by simp [delivered, failed, failed', Except.toOption], fun there here _ => ?_⟩
      rw [forward_of_fault failed, forward_of_fault failed']
    · have sent : delivered (some base) a = r.delivery? := by
        simp [delivered, made, Except.toOption]
      have sent' : delivered (some base) b = s.delivery? := by
        simp [delivered, made', Except.toOption]
      rw [sent, sent']
      refine ⟨same.delivery?, fun there here answers => ?_⟩
      rw [forward_of_request made, forward_of_request made']
      have received := same.delivery?
      generalize r.delivery? = first, s.delivery? = second at received answers ⊢
      cases received with
      | none => rfl
      | some _ =>
        simp only [Option.bind_some, answers _ rfl _ rfl, browserResponse_eq agree]

theorem source_stays_unseen_when_listed :
    let fields : Headers := [("host", "h"), ("connection", "Origin")]
    let bare : Incoming := { method := "GET", target := { path := "/api/x" }, headers := fields }
    let named : Incoming := { bare with
      headers := [("origin", "a")] ++ fields ++ [("referer", "a/p")] ++ [("origin", "c")] }
    backendBase (some "http://b/base/") = .ok (some "http://b/base") ∧ AgreeButSource bare named ∧
      ∀ response, forward (some "http://b/base") (fun _ => some response) bare =
        forward (some "http://b/base") (fun _ => some response) named := by
  intro fields bare named
  have normal : Settings.normalizeBase "http://b/base/" = .ok "http://b/base" := by decide +kernel
  have accepted : backendBase (some "http://b/base/") = .ok (some "http://b/base") := by
    have given : Settings.nonblank? (some "http://b/base/") = some "http://b/base/" := by
      decide +kernel
    rw [backendBase, given]
    exact congrArg (Except.map some) normal
  have agree : AgreeButSource bare named := by
    refine ⟨rfl, rfl, fun name notOrigin notReferer => ?_, rfl⟩
    simp only [bare, named, values_append, values_singleton, notOrigin, notReferer, if_false,
      List.nil_append, List.append_nil]
  exact ⟨accepted, agree, fun response =>
    (source_stays_unseen accepted agree).2 _ _ fun _ _ _ _ => rfl⟩

end RefData.Proxy
