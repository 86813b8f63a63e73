import RefData.Proofs.Proxy.Cookie
import RefData.Proofs.Url.Origin
import RefData.Proxy.Forward
set_option autoImplicit false

namespace RefData.Proxy

open Http Http.Headers

-- A connection field of the message, one that can be read, has the name between its commas, in any
-- case and with blanks around it.
def Listed (message : Headers) (name : String) : Prop :=
  ∃ value ∈ message.values "connection", isReadable value = true ∧
    ∃ token ∈ Text.commaPieces value,
      Text.lowerAscii (Text.trim token) = Text.lowerAscii name

theorem isHopByHop_iff {message : Headers} {name : String} :
    isHopByHop message (Text.lowerAscii name) = true ↔
      Text.lowerAscii name ∈ hopByHop ∨ Listed message name := by
  simp [isHopByHop, connectionTokens, Listed, and_assoc]

-- The field stays on its own connection, or has one of the names that are set anew.
def Held (message : Headers) (own : List String) (name : String) : Prop :=
  Text.lowerAscii name ∈ own ∨ Text.lowerAscii name ∈ hopByHop ∨ Listed message name

instance (message : Headers) (own : List String) (name : String) :
    Decidable (Held message own name) :=
  decidable_of_iff (Text.lowerAscii name ∈ own ∨ isHopByHop message (Text.lowerAscii name) = true)
    (or_congr_right isHopByHop_iff)

theorem values_passed (message : Headers) (own : List String) (name : String)
    (passes : String → Bool)
    (agrees : passes (Text.lowerAscii name) = true ↔ ¬ Held message own name) :
    values (message.filter fun field => passes field.1) (Text.lowerAscii name) =
      if Held message own name then [] else message.values (Text.lowerAscii name) := by
  rw [values_filter]
  by_cases held : Held message own name
  · rw [if_pos held, if_neg fun passed => agrees.1 passed held]
  · rw [if_neg held, if_pos (agrees.2 held)]

theorem values_putReadable {message : Headers} {key value : String}
    (readable : isReadable value = true) (name : String) :
    (putReadable message key value).values name =
      if name = key then [value] else message.values name := by
  rw [putReadable, if_pos readable, values_put]

theorem values_backendHeaders_put {incoming : Headers} {origin : String}
    (readable : Legible origin.toList) (name : String) :
    (backendHeaders incoming (some origin)).values name =
      if name = "referer" then [origin ++ "/"]
      else if name = "origin" then [origin]
      else values (incoming.filter fun field => field.1 != "host" && field.1 != "content-length" &&
        !isHopByHop incoming field.1) name := by
  have referer : isReadable (origin ++ "/") = true := by
    rw [isReadable_iff, String.toList_append]
    exact readable.append (by simp [Legible])
  simp only [backendHeaders]
  rw [values_putReadable referer, values_putReadable (isReadable_iff.2 readable)]

theorem values_backendHeaders {incoming : Headers} {origin : String}
    (readable : Legible origin.toList) (name : String) :
    (backendHeaders incoming (some origin)).values (Text.lowerAscii name) =
      if Text.lowerAscii name = "referer" then [origin ++ "/"]
      else if Text.lowerAscii name = "origin" then [origin]
      else if Held incoming ["host", "content-length"] name then []
      else incoming.values (Text.lowerAscii name) := by
  have passed := values_passed incoming ["host", "content-length"] name
    (fun key => key != "host" && key != "content-length" && !isHopByHop incoming key)
    (by rw [Held, ← isHopByHop_iff]; simp [and_assoc])
  rw [values_backendHeaders_put readable, passed]

def handedCookie (host value : String) : String :=
  if isReadable value then Cookie.readdress value host else value

theorem handOn_eq {host : String} (named : Legible host.toList) (field : String × String) :
    handOn host field =
      (field.1, if field.1 = "set-cookie" then handedCookie host field.2 else field.2) := by
  obtain ⟨name, value⟩ := field
  by_cases isCookie : name = "set-cookie"
  · by_cases readable : isReadable value = true
    · have written : isReadable (Cookie.readdress value host) = true :=
        isReadable_iff.2 (Cookie.legible_readdress (isReadable_iff.1 readable) named)
      simp [handOn, handedCookie, isCookie, readable, readable?, Option.filter, written]
    · simp [handOn, handedCookie, isCookie, readable, readable?]
  · simp [handOn, isCookie]

theorem values_handOn {host : String} (named : Legible host.toList) (passed : Headers)
    (name : String) :
    values (passed.map (handOn host)) name =
      if name = "set-cookie" then (passed.values name).map (handedCookie host)
      else passed.values name := by
  have sameName : ((·.1 == name) : String × String → Bool) ∘ handOn host = (·.1 == name) := by
    funext field
    simp [handOn_eq named]
  have handed (field : String × String) (isNamed : field ∈ passed.filter (·.1 == name)) :
      (handOn host field).2 =
        if name = "set-cookie" then handedCookie host field.2 else field.2 := by
    have key : field.1 = name := by simpa using (List.mem_filter.1 isNamed).2
    rw [handOn_eq named, key]
  simp only [values, List.filter_map, sameName, List.map_map]
  split
  next isCookie =>
    simp only [isCookie, if_true] at handed ⊢
    exact List.map_congr_left handed
  next notCookie =>
    simp only [notCookie, if_false] at handed
    exact List.map_congr_left handed

theorem legible_of_servingOrigin? {incoming : Headers} {site : String}
    (serves : servingOrigin? incoming = some site) : Legible site.toList := by
  have scheme : Legible ((((incoming.first? "x-forwarded-proto").bind readable?).map fun value =>
      Text.trimChars value.toList).filter (fun p => !p.isEmpty) |>.getD "http".toList) := by
    cases read : (incoming.first? "x-forwarded-proto").bind readable? with
    | none => simp [Legible]
    | some value =>
      have trimmed : Legible (Text.trimChars value.toList) :=
        (legible_of_readable? read).of_subset fun c mem => Text.mem_of_mem_trimChars mem
      by_cases blank : Text.trimChars value.toList = []
      · simp [blank, Option.filter, Legible]
      · simpa [Option.filter, blank] using trimmed
  simp only [servingOrigin?] at serves
  split at serves
  · cases serves
  · cases serves
    rw [String.toList_ofList]
    exact (scheme.append (by simp [Legible])).append (legible_servingHost incoming)

def handedValues (reply incoming : Headers) (name : String) : List String :=
  if Held reply ["content-length"] name then []
  else if Text.lowerAscii name = "set-cookie" then
    (reply.values "set-cookie").map (handedCookie (cookieHost incoming))
  else reply.values (Text.lowerAscii name)

theorem values_browserHeaders (reply incoming : Headers) (name : String) :
    (browserHeaders reply incoming).values (Text.lowerAscii name) =
      match servingOrigin? incoming with
      | some site =>
        if Text.lowerAscii name = "access-control-allow-credentials" then ["true"]
        else if Text.lowerAscii name = "access-control-allow-origin" then [site]
        else handedValues reply incoming name
      | none => handedValues reply incoming name := by
  have passed := values_passed reply ["content-length"] name
    (fun key => key != "content-length" && !isHopByHop reply key)
    (by rw [Held, ← isHopByHop_iff]; simp)
  have handed : values ((reply.filter fun field => field.1 != "content-length" &&
      !isHopByHop reply field.1).map (handOn (cookieHost incoming))) (Text.lowerAscii name) =
        handedValues reply incoming name := by
    rw [values_handOn (legible_cookieHost incoming), passed, handedValues]
    by_cases isCookie : Text.lowerAscii name = "set-cookie"
    · by_cases held : Held reply ["content-length"] name <;> simp [isCookie, held]
    · simp [isCookie]
  simp only [browserHeaders]
  cases serves : servingOrigin? incoming with
  | none => exact handed
  | some site =>
    have readable : isReadable site = true := isReadable_iff.2 (legible_of_servingOrigin? serves)
    simp only [Option.filter, readable, if_true, values_put]
    congr 2

theorem legible_of_originOf? {base origin : String} (backend : originOf? base = some origin) :
    Legible origin.toList := by
  unfold originOf? at backend
  cases read : Url.parse base with
  | error fault => simp [read, Except.toOption] at backend
  | ok u =>
    simp only [read, Except.toOption, Option.map_some, Option.some.injEq] at backend
    rw [← backend]
    exact Url.legible_origin read

-- The request tells by which host it came: the first of those that the first field with a host
-- names is not blank.
def NamesHost (incoming : Headers) : Prop :=
  ∃ value, (incoming.first? "x-forwarded-host").or (incoming.first? "host") = some value ∧
    isReadable value = true ∧ ∃ c ∈ value.toList.takeWhile (· != ','), Text.isBlank c = false

theorem servingHost_ne_nil_iff {incoming : Headers} :
    servingHost incoming ≠ [] ↔ NamesHost incoming := by
  unfold NamesHost servingHost
  cases noted : (incoming.first? "x-forwarded-host").or (incoming.first? "host") with
  | none => simp
  | some value =>
    by_cases readable : isReadable value = true
    · simp [readable?, readable, Text.trimChars_eq_nil_iff]
    · simp [readable?, readable]

theorem isSome_servingOrigin?_iff {incoming : Headers} :
    (servingOrigin? incoming).isSome = true ↔ NamesHost incoming := by
  rw [← servingHost_ne_nil_iff, servingOrigin?]
  by_cases absent : servingHost incoming = [] <;> simp [absent]

/-- Between browser and backend every field passes with all its values in order, save those that
stay on their own connection and those that are set anew: origin and referer on the way there, the
length on both ways, and on the way back, for a request that names its host, the two fields that
open the reply to the site. A cookie stays in its place. -/
theorem headers_pass_unless_held {base origin : String} (backend : originOf? base = some origin)
    (incoming reply : Headers) (name : String) :
    (backendHeaders incoming (some origin)).values (Text.lowerAscii name) =
      (if Text.lowerAscii name = "referer" then [origin ++ "/"]
      else if Text.lowerAscii name = "origin" then [origin]
      else if Held incoming ["host", "content-length"] name then []
      else incoming.values (Text.lowerAscii name)) ∧
    (browserHeaders reply incoming).values (Text.lowerAscii name) =
      (match servingOrigin? incoming with
      | some site =>
        if Text.lowerAscii name = "access-control-allow-credentials" then ["true"]
        else if Text.lowerAscii name = "access-control-allow-origin" then [site]
        else handedValues reply incoming name
      | none => handedValues reply incoming name) ∧
    ((servingOrigin? incoming).isSome = true ↔ NamesHost incoming) := by
  refine ⟨?_, ?_, isSome_servingOrigin?_iff⟩
  · exact values_backendHeaders (legible_of_originOf? backend) name
  · exact values_browserHeaders reply incoming name

theorem headers_pass_origin_listed :
    originOf? "http://b/base" = some "http://b" ∧
      (backendHeaders [("connection", "Origin"), ("origin", "c")] (some "http://b")).values
        "origin" = ["http://b"] := by
  have backend : originOf? "http://b/base" = some "http://b" := by decide +kernel
  have passed := headers_pass_unless_held backend [("connection", "Origin"), ("origin", "c")] []
    "Origin"
  have key : Text.lowerAscii "Origin" = "origin" := by decide +kernel
  rw [key] at passed
  exact ⟨backend, passed.1⟩

theorem of_mem_cookies {reply incoming : Headers} {value : String}
    (mem : value ∈ (browserHeaders reply incoming).values "set-cookie") :
    ∃ cookie ∈ reply.values "set-cookie", handedCookie (cookieHost incoming) cookie = value := by
  have key : Text.lowerAscii "set-cookie" = "set-cookie" := by decide +kernel
  have handed := values_browserHeaders reply incoming "set-cookie"
  have notCredentials : "set-cookie" ≠ "access-control-allow-credentials" := by decide
  have notOrigin : "set-cookie" ≠ "access-control-allow-origin" := by decide
  simp only [key, if_neg notCredentials, if_neg notOrigin] at handed
  have mem : value ∈ handedValues reply incoming "set-cookie" := by
    rw [handed] at mem
    cases site : servingOrigin? incoming <;> simpa only [site] using mem
  simp only [handedValues, key, if_true] at mem
  split at mem
  · cases mem
  · exact List.mem_map.1 mem

/-- For a host without a semicolon, a cookie that can be read is handed on without the backend's
domain and without a site policy; one that cannot be read is handed on as it is. -/
theorem readable_cookies_are_open {reply incoming : Headers}
    (whole : ';' ∉ (cookieHost incoming).toList) {value : String}
    (handed : value ∈ (browserHeaders reply incoming).values "set-cookie") :
    (isReadable value = true →
      ∀ part ∈ Cookie.attributes value, Cookie.Open (cookieHost incoming).toList part) ∧
    (isReadable value = false → value ∈ reply.values "set-cookie") := by
  obtain ⟨cookie, inReply, rfl⟩ := of_mem_cookies handed
  by_cases readable : isReadable cookie = true
  · have written : isReadable (Cookie.readdress cookie (cookieHost incoming)) = true :=
      isReadable_iff.2 (Cookie.legible_readdress (isReadable_iff.1 readable)
        (legible_cookieHost incoming))
    simp only [handedCookie, readable, if_true, written]
    refine ⟨fun _ part mem => Cookie.open_attributes_readdress whole mem, ?_⟩
    intro unreadable
    cases unreadable
  · simp only [handedCookie, readable]
    exact ⟨fun readable' => absurd readable' readable, fun _ => inReply⟩

theorem readable_cookies_are_open_lax :
    ';' ∉ (cookieHost [("host", "h:80")]).toList ∧
      ∀ part ∈ Cookie.attributes "a=1; Domain=h; Path=/; SameSite=None; Secure",
        Cookie.Open (cookieHost [("host", "h:80")]).toList part := by
  have whole : ';' ∉ (cookieHost [("host", "h:80")]).toList := by decide +kernel
  have handed : "a=1; Domain=h; Path=/; SameSite=None; Secure" ∈ (browserHeaders
      [("set-cookie", "a=1; Domain=b; SameSite=Lax")] [("host", "h:80")]).values "set-cookie" := by
    decide +kernel
  exact ⟨whole, (readable_cookies_are_open whole handed).1 (by decide +kernel)⟩

-- A semicolon in the host starts an attribute of its own, and a cookie that cannot be read keeps
-- those it has.
theorem cookie_policy_can_reach_browser :
    (¬ ∀ reply incoming : Headers, ∀ value ∈ (browserHeaders reply incoming).values "set-cookie",
      isReadable value = true →
        ∀ part ∈ Cookie.attributes value, Cookie.Open (cookieHost incoming).toList part) ∧
    (¬ ∀ reply incoming : Headers, ∀ value ∈ (browserHeaders reply incoming).values "set-cookie",
      ';' ∉ (cookieHost incoming).toList →
        ∀ part ∈ Cookie.attributes value, Cookie.Open (cookieHost incoming).toList part) := by
  constructor
  · intro all
    have isOpen := all [("set-cookie", "a=1")] [("host", "h; SameSite=Lax")]
      "a=1; Domain=h; SameSite=Lax; Path=/; SameSite=None; Secure" (by decide +kernel)
      (by decide +kernel) " SameSite=Lax".toList (by decide +kernel)
    exact (isOpen.site (by decide +kernel)).1 (by decide +kernel)
  · intro all
    have isOpen := all [("set-cookie", "a=я; SameSite=Lax")] [("host", "h")]
      "a=я; SameSite=Lax" (by decide +kernel) (by decide +kernel)
      " SameSite=Lax".toList (by decide +kernel)
    exact (isOpen.site (by decide +kernel)).1 (by decide +kernel)

end RefData.Proxy
